import Signaling.V2.Admissions
import Signaling.V2.Downgrade
import Signaling.V2.Records

/-!
# The reconnect grace

A member that is not registered has a deadline, and that deadline was set as
long before as the grace is. The clock takes a member out of its room, or has a
worker asked to let it leave, only once its deadline has passed.
-/

namespace Signaling
namespace V2

open Std (ExtTreeMap)
open RoomTable

/-- The client is a member under the token and is not registered. -/
def RoomTable.Away
    (table : RoomTable)
    (roomId : RoomId)
    (clientId : ClientId)
    (token : String) : Prop :=
  ∃ member, table.member? roomId clientId = some member ∧
    member.token = token ∧ member.registered = false

/-- The call starts the grace of a member: the member is admitted, its browser is
gone, or a timeout finds the deadline passed and sets another one. -/
inductive Call.Grants
    (call : Call)
    (table : RoomTable)
    (roomId : RoomId)
    (clientId : ClientId)
    (token : String)
    (since : Instant) : Prop
  | admitted (authorityRequestId : Nat)
      (asked : call.operation =
        .admitClient authorityRequestId since roomId clientId token)
      (absent : table.member? roomId clientId = none)
  | dropped
      (asked : call.operation = .deregister since roomId clientId)
  | swept (member : Member)
      (asked : call.operation = .handleTimeout since)
      (present : table.member? roomId clientId = some member)
      (same : member.token = token)
      (due : isDue member.reconnectDeadline since = true)

/-- A call of the history started the grace as long before the deadline as the
grace is, and the member has been away ever since. -/
def Waited
    (reconnectGrace : Duration)
    (history : History)
    (table : RoomTable)
    (roomId : RoomId)
    (clientId : ClientId)
    (token : String)
    (deadline : Instant) : Prop :=
  ∃ newer state call older since,
    history = newer ++ (state, call) :: older ∧
    call.Grants state roomId clientId token since ∧
    since + reconnectGrace = deadline ∧
    ∀ later ∈ table :: newer.map Prod.fst, later.Away roomId clientId token

/-! ## A timeout -/

/-- What a timeout leaves of a member: its token, its registration and its
lifecycle, and its deadline unless that was due and has been set again. -/
structure Member.Outlasts
    (earlier later : Member)
    (now : Instant)
    (reconnectGrace : Duration) : Prop where
  token : later.token = earlier.token
  registered : later.registered = earlier.registered
  lifecycle : later.lifecycleId = earlier.lifecycleId
  deadline : later.reconnectDeadline = earlier.reconnectDeadline ∨
    isDue earlier.reconnectDeadline now = true ∧
      later.reconnectDeadline = some (now + reconnectGrace)

namespace Member.Outlasts

variable
  {earlier middle later : Member}
  {now : Instant}
  {reconnectGrace : Duration}

theorem refl : earlier.Outlasts earlier now reconnectGrace :=
  ⟨rfl, rfl, rfl, .inl rfl⟩

theorem trans
    (first : earlier.Outlasts middle now reconnectGrace)
    (second : middle.Outlasts later now reconnectGrace) :
    earlier.Outlasts later now reconnectGrace where
  token := second.token.trans first.token
  registered := second.registered.trans first.registered
  lifecycle := second.lifecycle.trans first.lifecycle
  deadline := by
    rcases first.deadline with same | ⟨due, set⟩
    · rw [← same]
      exact second.deadline
    · rcases second.deadline with kept | ⟨-, again⟩
      · exact .inr ⟨due, kept.trans set⟩
      · exact .inr ⟨due, again⟩

/-- A deadline that is due was due before. -/
theorem due
    (lasts : earlier.Outlasts later now reconnectGrace)
    (passed : isDue later.reconnectDeadline now = true) :
    isDue earlier.reconnectDeadline now = true := by
  rcases lasts.deadline with same | ⟨due, -⟩
  · rwa [← same]
  · exact due

end Member.Outlasts

namespace RoomTable

/-- A part of the end of workers: members go only when a worker has yet to
confirm them, and no worker is asked to let anybody leave. -/
structure Relents (before after : RoomTable) : Prop where
  wellFormed : after.WellFormed
  grace : after.reconnectGrace = before.reconnectGrace
  kept : ∀ (roomId : RoomId) (clientId : ClientId) (member : Member),
    after.member? roomId clientId = some member ->
      before.member? roomId clientId = some member
  gone : ∀ (roomId : RoomId) (clientId : ClientId) (member : Member),
    before.member? roomId clientId = some member ->
    after.member? roomId clientId = none ->
    ∃ room authorityRequestId, before.rooms[roomId]? = some room ∧
      room.Awaits authorityRequestId clientId
  waits : ∀ (roomId : RoomId) (room : Room) (authorityRequestId : Nat)
    (clientId : ClientId), after.rooms[roomId]? = some room ->
    room.Awaits authorityRequestId clientId ->
    ∃ former, before.rooms[roomId]? = some former ∧
      former.Awaits authorityRequestId clientId
  recorded : ∀ (requestId : Nat) (pending : PendingCommand),
    after.pendingCommands[requestId]? = some pending ->
    pending.transition?.isSome = true ->
    before.pendingCommands[requestId]? = some pending

/-- A part of a sweep: members go, and a worker is asked to let them leave, only
when their deadline is due. -/
structure Bides (now : Instant) (before after : RoomTable) : Prop where
  wellFormed : after.WellFormed
  grace : after.reconnectGrace = before.reconnectGrace
  kept : ∀ (roomId : RoomId) (clientId : ClientId) (later : Member),
    after.member? roomId clientId = some later ->
    ∃ earlier, before.member? roomId clientId = some earlier ∧
      earlier.Outlasts later now before.reconnectGrace
  gone : ∀ (roomId : RoomId) (clientId : ClientId) (member : Member),
    before.member? roomId clientId = some member ->
    after.member? roomId clientId = none ->
    isDue member.reconnectDeadline now = true
  asked : ∀ (requestId : Nat) (instanceId : InstanceId) (roomId : RoomId)
    (clientId : ClientId) (lifecycleId assignmentEpoch : Nat),
    after.pendingCommands[requestId]? = some (.sfuLeave instanceId roomId
      clientId lifecycleId assignmentEpoch) ->
    before.pendingCommands[requestId]? = some (.sfuLeave instanceId roomId
      clientId lifecycleId assignmentEpoch) ∨
    ∃ member, before.member? roomId clientId = some member ∧
      member.lifecycleId = lifecycleId ∧
      isDue member.reconnectDeadline now = true

section Parts

variable
  {now : Instant}
  {table middle after : RoomTable}
  {roomId : RoomId}
  {room replaced : Room}

/-- The members of one room are replaced. -/
theorem member?_of_insert
    {otherId : RoomId}
    (rooms : after.rooms = table.rooms.insert roomId replaced)
    (clientId : ClientId) :
    after.member? otherId clientId =
      if otherId = roomId then replaced.members[clientId]?
      else table.member? otherId clientId := by
  unfold member?
  rw [rooms, ExtTreeMap.getElem?_insert]
  by_cases same : otherId = roomId
  · simp [same]
  · simp [same, Ne.symm same]

namespace Relents

theorem refl (wellFormed : table.WellFormed) : Relents table table where
  wellFormed := wellFormed
  grace := rfl
  kept := fun _ _ _ present => present
  gone := fun _ _ _ present absent => by simp [present] at absent
  waits := fun _ room _ _ found waits => ⟨room, found, waits⟩
  recorded := fun _ _ outstanding _ => outstanding

theorem trans
    (first : Relents table middle)
    (second : Relents middle after) :
    Relents table after where
  wellFormed := second.wellFormed
  grace := second.grace.trans first.grace
  kept := fun roomId clientId member present =>
    first.kept _ _ _ (second.kept roomId clientId member present)
  gone := by
    intro roomId clientId member present absent
    cases between : middle.member? roomId clientId with
    | none => exact first.gone roomId clientId member present between
    | some other =>
        obtain ⟨room, authorityRequestId, found, waits⟩ :=
          second.gone roomId clientId other between absent
        obtain ⟨former, was, waited⟩ :=
          first.waits roomId room authorityRequestId clientId found waits
        exact ⟨former, authorityRequestId, was, waited⟩
  waits := by
    intro roomId room authorityRequestId clientId found waits
    obtain ⟨between, there, waited⟩ := second.waits _ _ _ _ found waits
    exact first.waits _ _ _ _ there waited
  recorded := fun requestId pending outstanding about =>
    first.recorded _ _ (second.recorded requestId pending outstanding about)
      about

/-- One room is replaced by what is left of it. -/
theorem of_room
    (wellFormed : after.WellFormed)
    (grace : after.reconnectGrace = table.reconnectGrace)
    (found : table.rooms[roomId]? = some room)
    (rooms : after.rooms = table.rooms.insert roomId replaced)
    (members : ∀ clientId : ClientId,
      replaced.members[clientId]? = room.members[clientId]? ∨
        replaced.members[clientId]? = none ∧
          ∃ authorityRequestId, room.Awaits authorityRequestId clientId)
    (waits : ∀ authorityRequestId clientId,
      replaced.Awaits authorityRequestId clientId ->
        room.Awaits authorityRequestId clientId)
    (recorded : ∀ (requestId : Nat) (pending : PendingCommand),
      after.pendingCommands[requestId]? = some pending ->
      pending.transition?.isSome = true ->
      table.pendingCommands[requestId]? = some pending) :
    Relents table after where
  wellFormed := wellFormed
  grace := grace
  kept := by
    intro otherId clientId member present
    rw [member?_of_insert rooms] at present
    split at present
    · next same =>
        subst same
        rcases members clientId with kept | ⟨lost, -⟩
        · simpa [member?, found, ← kept] using present
        · simp [lost] at present
    · exact present
  gone := by
    intro otherId clientId member present absent
    rw [member?_of_insert rooms] at absent
    split at absent
    · next same =>
        subst same
        simp only [member?, found, Option.bind_some] at present
        rcases members clientId with kept | ⟨-, authorityRequestId, waited⟩
        · simp [kept, present] at absent
        · exact ⟨room, authorityRequestId, found, waited⟩
    · simp [present] at absent
  waits := by
    intro otherId other authorityRequestId clientId stored waited
    rw [rooms, ExtTreeMap.getElem?_insert] at stored
    split at stored
    · next same =>
        obtain rfl := Std.LawfulEqCmp.eq_of_compare same
        cases stored
        exact ⟨room, found, waits _ _ waited⟩
    · exact ⟨other, stored, waited⟩
  recorded := recorded

/-- A room of an expired worker is given up. -/
theorem expireRoom
    (wellFormed : table.WellFormed)
    (order : VisitOrder)
    (roomId : RoomId) :
    Relents table (RoomTable.expireRoom order table roomId) := by
  unfold RoomTable.expireRoom
  cases found : table.rooms[roomId]? with
  | none => exact refl wellFormed
  | some room =>
  have shape := wellFormed.rooms roomId room found
  have erased (joiner clientId : ClientId)
      (waits : ∃ authorityRequestId, room.Awaits authorityRequestId joiner) :
      (room.members.erase joiner)[clientId]? = room.members[clientId]? ∨
        (room.members.erase joiner)[clientId]? = none ∧
          ∃ authorityRequestId, room.Awaits authorityRequestId clientId := by
    by_cases same : joiner = clientId
    · subst same
      exact .inr ⟨ExtTreeMap.getElem?_erase_self, waits⟩
    · exact .inl (by simp [ExtTreeMap.getElem?_erase, same])
  dsimp only
  split
  · next mode =>
      obtain ⟨upgrade, upgrading, -⟩ := shape.upgrading mode
      obtain ⟨instanceId, assigned⟩ := Option.isSome_iff_exists.1
        (shape.upgrade upgrade upgrading).2.2.1
      obtain ⟨leavers, answers, release, -⟩ := abortUpgrade_released
        table "WORKER_UNAVAILABLE" found upgrading assigned
      refine of_room (wellFormed.abortUpgrade roomId _) release.reconnectGrace
        found release.rooms (fun clientId => erased _ _ ⟨_, .inr ⟨upgrade,
          upgrading, rfl, rfl⟩⟩) (fun _ _ waits => ?_)
        fun requestId pending outstanding about => ?_
      · rcases waits with joining | ⟨other, running, -⟩
        · exact .inl joining
        · cases running
      · obtain ⟨transition, about⟩ := Option.isSome_iff_exists.1 about
        exact release.recorded outstanding about
  · next settled =>
      refine of_room ((wellFormed.setRoom (shape.fail settled)).pushActions
          _) (by simp [failExpired]) found (by simp [failExpired]; rfl)
        (fun clientId => ?_) (fun _ _ waits => ?_)
        fun requestId pending outstanding _ => by
          simpa [failExpired] using outstanding
      · cases joining : room.pendingJoin with
        | none => simp [Room.fail, joining]
        | some join =>
            simpa [Room.fail, joining] using
              erased join.clientId clientId ⟨join.authorityRequestId,
                .inl joining⟩
      · rcases waits with joining | running
        · cases joining
        · exact .inr running

/-- An expired worker is given up. -/
theorem expireWorker
    (wellFormed : table.WellFormed)
    (order : VisitOrder)
    (instanceId : InstanceId) :
    Relents table (RoomTable.expireWorker order table instanceId) := by
  obtain ⟨remaining, given⟩ := expireWorker_eq order table instanceId
  have relents : Relents table
      (remaining.foldl (RoomTable.expireRoom order) table) := by
    clear given
    induction remaining using List.reverseRecOn with
    | nil => exact refl wellFormed
    | append_singleton remaining roomId inductionHypothesis =>
        rw [List.foldl_append]
        exact inductionHypothesis.trans
          (expireRoom inductionHypothesis.wellFormed order roomId)
  rw [given]
  refine relents.trans ?_
  generalize remaining.foldl (RoomTable.expireRoom order) table = emptied at *
  exact {
    wellFormed := (relents.wellFormed.retireAll _).modifyWorker _ _
      fun _ _ connected => by cases connected
    grace := by simp [RoomTable.releaseWorker]
    kept := fun _ _ _ present => by
      simpa [RoomTable.releaseWorker, member?] using present
    gone := fun roomId clientId _ present absent => by
      have same : (emptied.releaseWorker instanceId).member? roomId clientId =
          emptied.member? roomId clientId := by
        simp [RoomTable.releaseWorker, member?]
      simp [same, present] at absent
    waits := fun _ room _ _ found waits => ⟨room, by
      simpa [RoomTable.releaseWorker] using found, waits⟩
    recorded := fun _ _ outstanding _ => recorded_of_retireAll outstanding }

/-- All expired workers are given up. -/
theorem givenUp
    (wellFormed : table.WellFormed)
    (order : VisitOrder)
    (now : Instant) :
    Relents table (table.givenUp order now) := by
  unfold RoomTable.givenUp
  generalize table.expiredWorkers order now = remaining
  induction remaining using List.reverseRecOn with
  | nil => exact refl wellFormed
  | append_singleton remaining instanceId inductionHypothesis =>
      rw [List.foldl_append]
      exact inductionHypothesis.trans
        (expireWorker inductionHypothesis.wellFormed order instanceId)

end Relents

namespace Bides

theorem refl (wellFormed : table.WellFormed) : Bides now table table where
  wellFormed := wellFormed
  grace := rfl
  kept := fun _ _ later present => ⟨later, present, .refl⟩
  gone := fun _ _ _ present absent => by simp [present] at absent
  asked := fun _ _ _ _ _ _ outstanding => .inl outstanding

theorem trans
    (first : Bides now table middle)
    (second : Bides now middle after) :
    Bides now table after where
  wellFormed := second.wellFormed
  grace := second.grace.trans first.grace
  kept := by
    intro roomId clientId later present
    obtain ⟨between, there, lasts⟩ := second.kept roomId clientId later present
    obtain ⟨earlier, was, lasted⟩ := first.kept roomId clientId between there
    exact ⟨earlier, was, lasted.trans (first.grace ▸ lasts)⟩
  gone := by
    intro roomId clientId member present absent
    cases between : middle.member? roomId clientId with
    | none => exact first.gone roomId clientId member present between
    | some other =>
        obtain ⟨earlier, was, lasted⟩ := first.kept roomId clientId other between
        obtain rfl := Option.some.inj (present.symm.trans was)
        exact lasted.due (second.gone roomId clientId other between absent)
  asked := by
    intro requestId instanceId roomId clientId lifecycleId assignmentEpoch
      outstanding
    rcases second.asked _ _ _ _ _ _ outstanding with before |
      ⟨member, there, same, due⟩
    · exact first.asked _ _ _ _ _ _ before
    · obtain ⟨earlier, was, lasted⟩ := first.kept roomId clientId member there
      exact .inr ⟨earlier, was, lasted.lifecycle.symm.trans same,
        lasted.due due⟩

/-- One room is stored again with members that outlast the visit. -/
theorem of_room
    (wellFormed : after.WellFormed)
    (grace : after.reconnectGrace = table.reconnectGrace)
    (found : table.rooms[roomId]? = some room)
    (rooms : after.rooms = table.rooms.insert roomId replaced)
    (clients : ∀ clientId : ClientId, replaced.members[clientId]? = none ->
      room.members[clientId]? = none)
    (members : ∀ (clientId : ClientId) (later : Member),
      replaced.members[clientId]? = some later -> ∃ earlier,
        room.members[clientId]? = some earlier ∧
          earlier.Outlasts later now table.reconnectGrace)
    (asked : ∀ (requestId : Nat) (instanceId : InstanceId) (otherId : RoomId)
      (clientId : ClientId) (lifecycleId assignmentEpoch : Nat),
      after.pendingCommands[requestId]? = some (.sfuLeave instanceId otherId
        clientId lifecycleId assignmentEpoch) ->
      table.pendingCommands[requestId]? = some (.sfuLeave instanceId otherId
        clientId lifecycleId assignmentEpoch) ∨
      ∃ member, table.member? otherId clientId = some member ∧
        member.lifecycleId = lifecycleId ∧
        isDue member.reconnectDeadline now = true) :
    Bides now table after where
  wellFormed := wellFormed
  grace := grace
  kept := by
    intro otherId clientId later present
    rw [member?_of_insert rooms] at present
    split at present
    · next same =>
        subst same
        obtain ⟨earlier, was, lasts⟩ := members clientId later present
        exact ⟨earlier, by simp [member?, found, was], lasts⟩
    · exact ⟨later, present, .refl⟩
  gone := by
    intro otherId clientId member present absent
    rw [member?_of_insert rooms] at absent
    split at absent
    · next same =>
        subst same
        simp only [member?, found, Option.bind_some] at present
        simp [clients clientId absent] at present
    · simp [present] at absent
  asked := asked

/-- The visit of one room in a sweep. -/
theorem sweepRoom
    (wellFormed : table.WellFormed)
    (order : VisitOrder)
    (promotions : List Promotion)
    (roomId : RoomId) :
    Bides now table
      (RoomTable.sweepRoom order now (promotions, table) roomId).2 := by
  cases found : table.rooms[roomId]? with
  | none => simpa [RoomTable.sweepRoom, found] using refl wellFormed
  | some room =>
  have shape := wellFormed.rooms roomId room found
  unfold RoomTable.sweepRoom
  simp only [found]
  split
  · split
    · next eligible =>
        obtain ⟨other, instanceId, initiatorClientId, others, present,
          forwarded, small, noJoin, noLeave, assigned, clients⟩ :=
            wellFormed.eligible eligible
        obtain rfl : room = other := by simpa [found] using present
        have release := commitDowngrade_released order found assigned clients
        refine of_room (wellFormed.moved (Moved.downgrade order eligible))
          release.reconnectGrace found release.rooms (fun clientId absent => ?_)
          (fun clientId later here => ?_)
          fun requestId _ _ _ _ _ outstanding => .inl
            (release.recorded outstanding rfl)
        · simpa [Room.commitP2p] using absent
        · simp only [Room.commitP2p, ExtTreeMap.getElem?_map,
            Option.map_eq_some_iff] at here
          obtain ⟨earlier, was, rfl⟩ := here
          exact ⟨earlier, was, rfl, rfl, rfl, .inl rfl⟩
    · exact of_room (wellFormed.setRoom (shape.setDeadline none)) rfl found rfl
        (fun _ absent => absent) (fun _ later here => ⟨later, here, .refl⟩)
        fun _ _ _ _ _ _ outstanding => .inl outstanding
  split
  · next clientId expired =>
      obtain ⟨forwarded, noLeave, member, present, due⟩ :=
        Room.of_expiredSfuClient expired
      obtain ⟨deadline, waiting, -⟩ := isDue_iff.1 due
      rcases issueSfuLeave_cases table roomId clientId .disconnected with
        kept | ⟨other, otherMember, instanceId, connectionId, otherFound, -, -,
          otherPresent, assigned, connected, issued⟩
      · rw [kept]
        refine of_room (wellFormed.moved (Moved.rearmGrace now found present
          waiting forwarded)) rfl found rfl (fun otherId absent => ?_)
          (fun otherId later here => ?_)
          fun _ _ _ _ _ _ outstanding => .inl outstanding
        · simp only [Room.modifyMember, ExtTreeMap.getElem?_modify] at absent
          split at absent
          · next same =>
              cases compare_eq_iff_eq.1 same
              simpa using absent
          · exact absent
        · simp only [Room.modifyMember, ExtTreeMap.getElem?_modify] at here
          split at here
          · next same =>
              cases compare_eq_iff_eq.1 same
              rw [present, Option.map_some] at here
              cases here
              exact ⟨member, present, rfl, rfl, rfl, .inr ⟨due, rfl⟩⟩
          · exact ⟨later, here, .refl⟩
      · obtain rfl : room = other := by simpa [found] using otherFound
        obtain rfl : member = otherMember := by
          simpa [present] using otherPresent
        rw [issued]
        refine of_room (wellFormed.moved (Moved.retryLeave found present waiting
            forwarded noLeave assigned connected)) rfl found rfl
          (fun _ absent => absent) (fun _ later here => ⟨later, here, .refl⟩)
          fun requestId _ otherId _ _ _ outstanding => ?_
        rcases recorded_of_issueCommand outstanding with ⟨same, -⟩ | before
        · cases same
          exact .inr ⟨member, by simp [member?, found, present], rfl, due⟩
        · exact .inl before
  split
  · exact refl wellFormed
  · next direct =>
      simp only [ne_eq, not_not] at direct
      have swept := wellFormed.moved (Moved.expireMembers now found direct)
      have rooms : ∀ otherId, (table.setOrDropRoom roomId
          (room.expireMembers roomId now).2).rooms[otherId]? =
          if otherId = roomId then (room.expireMembers roomId now).2.stored
          else table.rooms[otherId]? := by
        intro otherId
        unfold setOrDropRoom Room.stored
        split <;> simp only [dropRoom_rooms, setRoom_rooms] <;> grind
      have members (otherId : RoomId) (clientId : ClientId) :
          (table.setOrDropRoom roomId
            (room.expireMembers roomId now).2).member? otherId clientId =
          if otherId = roomId then
            memberOf (room.expireMembers roomId now).2.stored clientId
          else table.member? otherId clientId := by
        unfold member?
        rw [rooms]
        split <;> rfl
      refine ⟨swept, ?_, fun otherId clientId later here => ?_,
        fun otherId clientId member present absent => ?_,
        fun _ _ _ _ _ _ outstanding => ?_⟩
      · unfold setOrDropRoom
        split <;> rfl
      · rw [members] at here
        split at here
        · next same =>
            subst same
            obtain ⟨former, listed, -, rfl | rfl⟩ := Room.expireMembers_members
              _ _ (memberOf_stored_le here)
            · exact ⟨_, by simp [member?, found, listed], .refl⟩
            · exact ⟨former, by simp [member?, found, listed], rfl, rfl, rfl,
                .inl rfl⟩
        · exact ⟨later, here, .refl⟩
      · rw [members] at absent
        split at absent
        · next same =>
            subst same
            simp only [member?, found, Option.bind_some] at present
            by_contra undue
            obtain ⟨later, kept, -⟩ := Room.expireMembers_registered otherId now
              present (by simpa using undue)
            rw [memberOf_stored kept] at absent
            cases absent
        · simp [present] at absent
      · refine .inl ?_
        unfold setOrDropRoom at outstanding
        split at outstanding <;> exact outstanding

/-- The sweep of any rooms. -/
theorem sweep
    (wellFormed : table.WellFormed)
    (order : VisitOrder)
    (promotions : List Promotion)
    (remaining : List RoomId) :
    Bides now table (remaining.foldl (RoomTable.sweepRoom order now)
      (promotions, table)).2 := by
  induction remaining using List.reverseRecOn with
  | nil => exact refl wellFormed
  | append_singleton remaining roomId inductionHypothesis =>
      rw [List.foldl_append]
      generalize remaining.foldl (RoomTable.sweepRoom order now)
        (promotions, table) = swept at inductionHypothesis
      obtain ⟨promoted, after⟩ := swept
      exact inductionHypothesis.trans
        (sweepRoom inductionHypothesis.wellFormed order promoted roomId)

/-- A timeout once the expired workers have been given up. -/
theorem handleTimeout
    (wellFormed : table.WellFormed)
    (order : VisitOrder)
    (now : Instant) :
    Bides now (table.givenUp order now)
      (table.handleTimeout order now).2 :=
  sweep (Relents.givenUp wellFormed order now).wellFormed order [] _

end Bides

end Parts

end RoomTable

/-! ## Deadlines -/

namespace RoomTable

variable
  {table : RoomTable}
  {call : Call}
  {roomId : RoomId}
  {clientId : ClientId}

/-- A deadline after a call is older than the call, or the grace ahead of it. -/
theorem Consistent.deadline_since
    {later : Member}
    {deadline : Instant}
    (consistent : table.Consistent)
    (present : (table.step call).member? roomId clientId = some later)
    (waiting : later.reconnectDeadline = some deadline) :
    (∃ now, call.Grants table roomId clientId later.token now ∧
        now + table.reconnectGrace = deadline) ∨
      ∃ earlier, table.member? roomId clientId = some earlier ∧
        later.token = earlier.token ∧
        earlier.reconnectDeadline = some deadline := by
  by_cases timed : ∃ now, call.operation = .handleTimeout now
  · obtain ⟨now, asked⟩ := timed
    simp only [RoomTable.step, asked] at present
    have relents := Relents.givenUp consistent.wellFormed call.order now
    obtain ⟨between, there, lasts⟩ := (Bides.handleTimeout
      consistent.wellFormed call.order now).kept roomId clientId later present
    have was := relents.kept roomId clientId between there
    rcases lasts.deadline with same | ⟨due, set⟩
    · exact .inr ⟨between, was, lasts.token, same ▸ waiting⟩
    · rw [set, relents.grace] at waiting
      exact .inl ⟨now, .swept between asked was lasts.token.symm due,
        Option.some.inj waiting⟩
  by_cases dropped : ∃ now, call.operation = .deregister now roomId clientId
  · obtain ⟨now, asked⟩ := dropped
    simp only [RoomTable.step, asked] at present
    obtain ⟨former, was, ⟨-, rfl⟩ | ⟨-, rfl | rfl⟩⟩ :=
      deregister_member? present
    · exact .inr ⟨_, was, rfl, waiting⟩
    · exact .inr ⟨former, was, rfl, waiting⟩
    · exact .inl ⟨now, .dropped asked, Option.some.inj waiting⟩
  by_cases fresh : table.member? roomId clientId = none ∧
      ∃ authorityRequestId now token, call.operation =
        .admitClient authorityRequestId now roomId clientId token
  · obtain ⟨absent, authorityRequestId, now, token, asked⟩ := fresh
    simp only [RoomTable.step, asked] at present
    obtain ⟨isInitiator, lifecycleId, rfl⟩ := admitClient_member absent present
    exact .inl ⟨now, .admitted authorityRequestId asked absent,
      Option.some.inj waiting⟩
  refine .inr (@step_invariant table call (fun _ middle => ∀ member,
      middle.member? roomId clientId = some member ->
      member.reconnectDeadline = some deadline ->
      ∃ earlier, table.member? roomId clientId = some earlier ∧
        member.token = earlier.token ∧
        earlier.reconnectDeadline = some deadline) consistent
    (fun phase middle move phase' next taken arises shape kept member here
      set => ?_)
    (fun member here set => ⟨member, here, rfl, set⟩) later present waiting)
  rcases (taken.room shape.wellFormed roomId).continues here with
    ⟨former, was, token, -, deadline⟩ | ⟨absent, -, adds⟩
  · rw [token]
    rcases deadline with same | unset | rfl | rfl
    · exact kept former was (same ▸ set)
    · simp [unset] at set
    · exact absurd arises.2 dropped
    · exact absurd arises timed
  · refine absurd ?_ fresh
    cases move with
    | create | joinDirect =>
        obtain ⟨rfl, rfl⟩ := adds
        obtain ⟨rfl, authorityRequestId, now, token, asked⟩ := arises
        exact ⟨absent, authorityRequestId, now, token, asked⟩
    | beginUpgrade authorityRequestId | beginJoin authorityRequestId =>
        obtain ⟨rfl, rfl⟩ := adds
        obtain ⟨rfl, now, token, asked⟩ := arises
        exact ⟨absent, authorityRequestId, now, token, asked⟩
    | _ => exact adds.elim

/-- Who waits for a deadline is not registered. -/
theorem Consistent.away
    {member : Member}
    {deadline : Instant}
    (consistent : table.Consistent)
    (present : table.member? roomId clientId = some member)
    (waiting : member.reconnectDeadline = some deadline) :
    table.Away roomId clientId member.token := by
  refine ⟨member, present, rfl, ?_⟩
  obtain ⟨room, found, inside⟩ := Option.bind_eq_some_iff.1 present
  by_contra registered
  rw [(consistent.wellFormed.rooms roomId room found).waiting clientId member
    inside (by simpa using registered)] at waiting
  cases waiting

theorem reconnectGrace_of_run
    {reconnectGrace : Duration}
    {history : History}
    (run : (machine reconnectGrace).Run history table) :
    table.reconnectGrace = reconnectGrace := by
  induction run with
  | start starts =>
      obtain rfl : _ = RoomTable.new reconnectGrace := starts
      rfl
  | next call run inductionHypothesis =>
      exact (step_reconnectGrace (consistent_of_run run).wellFormed
        call).2.trans inductionHypothesis

end RoomTable

/-- Along every run, a deadline was set as long before it as the grace is, and
the member has been away since. -/
theorem waited_of_run
    {reconnectGrace : Duration}
    {history : History}
    {table : RoomTable}
    {roomId : RoomId}
    {clientId : ClientId}
    {member : Member}
    {deadline : Instant}
    (run : (RoomTable.machine reconnectGrace).Run history table)
    (present : table.member? roomId clientId = some member)
    (waiting : member.reconnectDeadline = some deadline) :
    Waited reconnectGrace history table roomId clientId member.token
      deadline := by
  induction run generalizing member with
  | start starts =>
      obtain rfl : _ = RoomTable.new reconnectGrace := starts
      simp [RoomTable.member?] at present
  | next call run inductionHypothesis =>
      rename_i history before
      have away := ((consistent_of_run run).step call).away present waiting
      rcases (consistent_of_run run).deadline_since present waiting with
        ⟨now, grants, same⟩ | ⟨earlier, was, token, waited⟩
      · rw [reconnectGrace_of_run run] at same
        refine ⟨[], before, call, history, now, rfl, grants, same, ?_⟩
        intro later listed
        rw [List.mem_singleton.1 listed]
        exact away
      · obtain ⟨newer, state, set, older, since, split, grants, same, absent⟩ :=
          inductionHypothesis was waited
        refine ⟨(before, call) :: newer, state, set, older, since,
          by rw [split]; rfl, token ▸ grants, same, ?_⟩
        intro later listed
        rcases List.mem_cons.1 listed with rfl | listed
        · exact away
        · rw [token]
          exact absent later listed

/-- The admission of the client is pending in a room that an expiring worker
lists. -/
def RoomTable.Relies
    (table : RoomTable)
    (now : Instant)
    (roomId : RoomId)
    (clientId : ClientId) : Prop :=
  ∃ room authorityRequestId instanceId,
    table.rooms[roomId]? = some room ∧
    room.Awaits authorityRequestId clientId ∧
    table.Expires now instanceId ∧
    table.Lists instanceId roomId

/-- A member has been away for the grace when its deadline is due. -/
theorem waited_of_due
    {reconnectGrace : Duration}
    {history : History}
    {table : RoomTable}
    {now : Instant}
    {roomId : RoomId}
    {clientId : ClientId}
    {member : Member}
    (run : (RoomTable.machine reconnectGrace).Run history table)
    (present : table.member? roomId clientId = some member)
    (due : isDue member.reconnectDeadline now = true) :
    ∃ deadline ≤ now, Waited reconnectGrace history table roomId clientId
      member.token deadline := by
  obtain ⟨deadline, waiting, passed⟩ := isDue_iff.1 due
  exact ⟨deadline, passed, waited_of_run run present waiting⟩

/-- A timeout takes a member out only when its deadline is due, or with the
worker that was to confirm it. -/
theorem RoomTable.Consistent.timed_out
    {table : RoomTable}
    {order : VisitOrder}
    {now : Instant}
    {roomId : RoomId}
    {clientId : ClientId}
    {member : Member}
    (consistent : table.Consistent)
    (present : table.member? roomId clientId = some member)
    (absent : (table.handleTimeout order now).2.member? roomId clientId =
      none) :
    table.Relies now roomId clientId ∨
      isDue member.reconnectDeadline now = true := by
  have relents := Relents.givenUp consistent.wellFormed order now
  cases between : (table.givenUp order now).member? roomId clientId with
  | some other =>
      obtain rfl := Option.some.inj
        (present.symm.trans (relents.kept roomId clientId other between))
      exact .inr ((Bides.handleTimeout consistent.wellFormed order now).gone
        roomId clientId member between absent)
  | none =>
      obtain ⟨room, authorityRequestId, found, waits⟩ :=
        relents.gone roomId clientId member present between
      obtain ⟨call, asked, rfl⟩ : ∃ call : Call,
          call.operation = .handleTimeout now ∧ call.order = order :=
        ⟨⟨.handleTimeout now, order⟩, rfl, rfl⟩
      obtain ⟨-, expiring, -⟩ := expiry_chain asked consistent.wellFormed
      rcases expiring.touched roomId with same | ⟨instanceId, expires, listed⟩
      · change (table.givenUp call.order now).rooms[roomId]? = _ at same
        have kept : (table.givenUp call.order now).member? roomId clientId =
            table.member? roomId clientId := by
          simp [member?, same]
        rw [between, present] at kept
        cases kept
      · exact .inl ⟨room, authorityRequestId, instanceId, found, waits,
          expires, listed⟩

/-- A timeout has a worker asked to let a member leave only when the deadline of
the member is due. -/
theorem RoomTable.Consistent.leave_due
    {table : RoomTable}
    {order : VisitOrder}
    {now : Instant}
    {requestId : Nat}
    {instanceId : InstanceId}
    {roomId : RoomId}
    {clientId : ClientId}
    {lifecycleId assignmentEpoch : Nat}
    (consistent : table.Consistent)
    (outstanding : (table.handleTimeout order now).2.pendingCommands[requestId]?
      = some (.sfuLeave instanceId roomId clientId lifecycleId
        assignmentEpoch)) :
    table.pendingCommands[requestId]? = some (.sfuLeave instanceId roomId
        clientId lifecycleId assignmentEpoch) ∨
      ∃ member, table.member? roomId clientId = some member ∧
        member.lifecycleId = lifecycleId ∧
        isDue member.reconnectDeadline now = true := by
  have relents := Relents.givenUp consistent.wellFormed order now
  rcases (Bides.handleTimeout consistent.wellFormed order now).asked _ _ _ _ _ _
    outstanding with before | ⟨member, there, same, due⟩
  · exact .inl (relents.recorded _ _ before rfl)
  · exact .inr ⟨member, relents.kept _ _ _ there, same, due⟩

/-- A command that asks a worker to let the client leave is outstanding. -/
def RoomTable.Releases
    (table : RoomTable)
    (requestId : Nat)
    (roomId : RoomId)
    (clientId : ClientId) : Prop :=
  ∃ instanceId lifecycleId assignmentEpoch,
    table.pendingCommands[requestId]? = some (PendingCommand.sfuLeave instanceId
      roomId clientId lifecycleId assignmentEpoch)

/-- The clock takes a member out of its room, or has a worker asked to let it
leave, only once the member has been away for the grace, or with the worker that
was to confirm its admission. -/
theorem reconnect_grace_granted
    {reconnectGrace : Duration}
    {history : History}
    {table : RoomTable}
    (run : (RoomTable.machine reconnectGrace).Run history table)
    {order : VisitOrder}
    {now : Instant}
    {roomId : RoomId}
    {clientId : ClientId}
    {member : Member}
    (present : table.member? roomId clientId = some member)
    (dropped :
      (table.handleTimeout order now).2.member? roomId clientId = none ∨
      ∃ requestId,
        (table.handleTimeout order now).2.Releases requestId roomId clientId ∧
        ¬table.Releases requestId roomId clientId) :
    table.Relies now roomId clientId ∨
      ∃ deadline ≤ now, Waited reconnectGrace history table roomId clientId
        member.token deadline := by
  have consistent := RoomTable.consistent_of_run run
  rcases dropped with absent | ⟨requestId, ⟨_, _, _, outstanding⟩, fresh⟩
  · exact (consistent.timed_out present absent).imp_right
      (waited_of_due run present)
  · rcases consistent.leave_due outstanding with before |
      ⟨other, there, -, due⟩
    · exact absurd ⟨_, _, _, before⟩ fresh
    · obtain rfl := Option.some.inj (present.symm.trans there)
      exact .inr (waited_of_due run present due)

/-- A browser closes the connection of the only member of its room. -/
def desertedOperations : List Operation :=
  [.admitClient 1 0 exampleRoomId 1 "first",
    .register exampleRoomId 1 "first",
    .deregister 10 exampleRoomId 1]

theorem reconnect_grace_granted_deserted :
    ∃ deadline ≤ 30, Waited 20 (RoomTable.played 20 desertedOperations).1
      (RoomTable.played 20 desertedOperations).2 exampleRoomId 1 "first"
      deadline := by
  have present : ((RoomTable.played 20 desertedOperations).2.member?
      exampleRoomId 1).map (·.token) = some "first" := by
    decide +kernel
  have absent : (((RoomTable.played 20 desertedOperations).2.handleTimeout
      .sorted 30).2.member? exampleRoomId 1).isNone = true := by
    decide +kernel
  have alone : (RoomTable.played 20 desertedOperations).2.workers.isEmpty =
      true := by
    decide +kernel
  obtain ⟨member, found, token⟩ := Option.map_eq_some_iff.1 present
  rcases reconnect_grace_granted (RoomTable.played_run 20 desertedOperations)
    found (.inl (Option.isNone_iff_eq_none.1 absent)) with
    ⟨_, _, instanceId, -, -, ⟨worker, known, -⟩, -⟩ | waited
  · rw [ExtTreeMap.isEmpty_iff.1 alone] at known
    simp at known
  · rw [token] at waited
    exact waited

end V2
end Signaling
