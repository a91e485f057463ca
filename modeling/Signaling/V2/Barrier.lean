import Signaling.V2.Memberships
import Signaling.V2.Records
import Signaling.V2.Rollback

/-!
# The barrier of an upgrade

A room is forwarded only after its worker has confirmed every join of one
upgrade. The joins are asked for one at a time, each after the one before it
has been confirmed.
-/

namespace Signaling
namespace V2

open Std (ExtTreeMap ExtTreeSet)
open RoomTable

/-- The record under which the table waits for the join of a client. -/
def UpgradePlan.record
    (plan : UpgradePlan)
    (roomId : RoomId)
    (clientId : ClientId) : PendingCommand :=
  .upgradeJoin plan.instanceId roomId clientId (plan.lifecycle clientId)
    plan.assignmentEpoch

/-- The record is the one upgrade join of the room that is outstanding. -/
def RoomTable.AwaitsOnly
    (table : RoomTable)
    (roomId : RoomId)
    (requestId : Nat)
    (pending : PendingCommand) : Prop :=
  ∀ otherId other,
    table.pendingCommands[otherId]? = some other ∧
        other.transition? = some (.upgrade, roomId) ↔
      otherId = requestId ∧ other = pending

/-- An upgrade from its admission on: the number of joins that its worker has
confirmed, and the request of the join that it waits for. -/
inductive Barrier
    (roomId : RoomId)
    (plan : UpgradePlan) :
    Nat -> Nat -> History -> RoomTable -> Prop
  | begins
      {start : RoomTable} {former : Room} {admission : Call} {now : Instant}
      {token : String} {requestId : Nat} {clientId : ClientId}
      (asked : admission.operation = .admitClient plan.authorityRequestId now
        roomId plan.joiningClientId token)
      (found : start.rooms[roomId]? = some former)
      (direct : former.mode = .p2p)
      (covers : plan.Covers former)
      (ascending : plan.clients.Pairwise (· < ·))
      (first : plan.order[0]? = some clientId)
      (asks : orders roomId (handed (start.emitted admission)) =
        [plan.join roomId clientId])
      (waits : (start.step admission).AwaitsOnly roomId requestId
        (plan.record roomId clientId)) :
      Barrier roomId plan 0 requestId [(start, admission)]
        (start.step admission)
  | aside
      {confirmed requestId : Nat} {clientId : ClientId} {history : History}
      {table : RoomTable} {call : Call}
      (earlier : Barrier roomId plan confirmed requestId history table)
      (current : plan.order[confirmed]? = some clientId)
      (waits : (table.step call).AwaitsOnly roomId requestId
        (plan.record roomId clientId)) :
      Barrier roomId plan confirmed requestId ((table, call) :: history)
        (table.step call)
  | confirms
      {confirmed requestId nextRequestId : Nat} {clientId nextId : ClientId}
      {history : History} {table : RoomTable} {call : Call}
      (earlier : Barrier roomId plan confirmed requestId history table)
      (current : plan.order[confirmed]? = some clientId)
      (accepts : call.Accepts table plan.instanceId requestId
        (plan.record roomId clientId))
      (next : plan.order[confirmed + 1]? = some nextId)
      (asks : orders roomId (handed (table.emitted call)) =
        [plan.join roomId nextId])
      (waits : (table.step call).AwaitsOnly roomId nextRequestId
        (plan.record roomId nextId)) :
      Barrier roomId plan (confirmed + 1) nextRequestId
        ((table, call) :: history) (table.step call)

/-- The room runs the upgrade and has confirmed the given number of joins. -/
structure Room.Runs
    (room : Room)
    (plan : UpgradePlan)
    (confirmed : Nat) : Prop where
  upgrade : room.upgrade = some (plan.upgrade confirmed)
  assigned : room.assignedInstance = some plan.instanceId
  assignmentEpoch : room.assignmentEpoch = plan.assignmentEpoch
  members : ∀ (clientId : ClientId) (member : Member),
    room.members[clientId]? = some member ->
      member.lifecycleId = plan.lifecycle clientId

/-- What an outstanding join of an upgrade looks back on. -/
structure Pursues
    (roomId : RoomId)
    (requestId : Nat)
    (pending : PendingCommand)
    (plan : UpgradePlan)
    (confirmed : Nat)
    (history : History)
    (table : RoomTable) : Prop where
  current : ∃ clientId, plan.order[confirmed]? = some clientId ∧
    pending = plan.record roomId clientId
  three : plan.order.length = 3
  past : ∃ segment earlier, history = segment ++ earlier ∧
    Barrier roomId plan confirmed requestId segment table
  runs : ∃ room, table.rooms[roomId]? = some room ∧ room.Runs plan confirmed

theorem Room.Stage.runs
    {former room : Room}
    {plan : UpgradePlan}
    {confirmed : Nat}
    (stage : former.Stage plan confirmed room) :
    room.Runs plan confirmed where
  upgrade := stage.upgrade
  assigned := stage.assigned
  assignmentEpoch := stage.assignmentEpoch
  members := by
    intro clientId member present
    by_cases last : clientId = plan.joiningClientId
    · subst last
      obtain ⟨joining, found, lived⟩ := stage.joining
      rw [found] at present
      obtain rfl := Option.some.inj present
      exact lived
    · have relives := stage.members clientId last
      rw [Room.Relives, present] at relives
      obtain ⟨earlier, -, rfl⟩ := Option.map_eq_some_iff.1 relives.symm
      rfl

/-- The upgrade of a room, once it runs, changes by the start and the progress
of an upgrade only; every other move keeps it or ends it. -/
theorem RoomMoved.upgrade_kept
    {roomId : RoomId}
    {move : Move}
    {before : Option Room}
    {after : Room}
    {upgrade : Upgrade}
    (moved : RoomMoved roomId move before (some after))
    (wellFormed : ∀ former, before = some former -> former.WellFormed)
    (steady : ¬move.Starts .upgrade roomId)
    (running : after.upgrade = some upgrade) :
    ∃ former, before = some former ∧ former.upgrade = some upgrade ∧
      former.assignedInstance = after.assignedInstance ∧
      former.assignmentEpoch = after.assignmentEpoch := by
  generalize becomes : some after = result at moved
  cases moved with
  | beginUpgrade | advanceUpgrade =>
      exact absurd ⟨rfl, rfl⟩ steady
  | create =>
      cases becomes
      simp [Room.create] at running
  | kept =>
      cases becomes
      exact ⟨after, rfl, running, rfl, rfl⟩
  | register =>
      cases becomes
      exact ⟨_, rfl, by simpa using running, by simp, by simp⟩
  | removeFailed | completeLeave =>
      obtain rfl := Room.eq_of_stored becomes.symm
      exact ⟨_, rfl, running, rfl, rfl⟩
  | removeDirect =>
      obtain rfl := Room.eq_of_stored becomes.symm
      exact ⟨_, rfl, by simpa using running, by simp, by simp⟩
  | expireMembers =>
      obtain rfl := Room.eq_of_stored becomes.symm
      exact ⟨_, rfl, by simpa using running, by simp, by simp⟩
  | commitUpgrade | abortUpgrade | expireUpgrade =>
      cases becomes
      cases running
  | downgrade forwarded =>
      cases becomes
      exact absurd running (by
        simp [Room.commitP2p, ((wellFormed _ rfl).forwarded forwarded).2])
  | _ =>
      cases becomes
      exact ⟨_, rfl, running, rfl, rfl⟩

/-- A room that a move leaves in an upgrade ran it before, under the lifecycles
that its members still have. -/
theorem RoomMoved.runs
    {roomId : RoomId}
    {move : Move}
    {before : Option Room}
    {after : Room}
    {plan : UpgradePlan}
    {confirmed : Nat}
    (moved : RoomMoved roomId move before (some after))
    (wellFormed : ∀ former, before = some former -> former.WellFormed)
    (steady : ¬move.Starts .upgrade roomId)
    (running : after.upgrade.isSome)
    (runs : ∀ former, before = some former -> former.upgrade.isSome ->
      former.Runs plan confirmed) :
    after.Runs plan confirmed := by
  obtain ⟨upgrade, flying⟩ := Option.isSome_iff_exists.1 running
  obtain ⟨former, was, flown, assigned, epoch⟩ :=
    moved.upgrade_kept wellFormed steady flying
  have ran := runs former was (by simp [flown])
  have shape := wellFormed former was
  by_cases about : move.room? = some roomId
  swap
  · have untouched := moved.elsewhere about
    exact Option.some.inj (untouched.trans was) ▸ ran
  have settled : ¬move.Enrols := by
    intro enrols
    cases move with
    | create =>
        cases moved with
        | kept other => exact other.elim (absurd about) (by simp)
        | create => cases was
    | joinDirect =>
        cases moved with
        | kept other => exact other.elim (absurd about) (by simp)
        | joinDirect _ _ _ _ _ direct =>
            obtain rfl := Option.some.inj was
            simp [(shape.direct direct).2.2.1] at flown
    | beginJoin =>
        cases moved with
        | kept other => exact other.elim (absurd about) (by simp)
        | beginJoin _ _ _ _ _ forwarded =>
            obtain rfl := Option.some.inj was
            simp [(shape.forwarded forwarded).2] at flown
    | beginUpgrade =>
        cases moved with
        | kept other => exact other.elim (absurd about) (by simp)
        | beginUpgrade => exact steady ⟨rfl, rfl⟩
    | _ => exact enrols
  obtain ⟨same, became, lives⟩ := moved.livesOn settled rfl
  obtain rfl := Option.some.inj (was.symm.trans became)
  refine ⟨?_, assigned ▸ ran.assigned, epoch ▸ ran.assignmentEpoch,
    fun clientId member present => ?_⟩
  · rw [flying, ← flown, ran.upgrade]
  · obtain ⟨earlier, found, lived⟩ := lives.members clientId member present
    rw [← lived]
    exact ran.members clientId earlier found

section Steps

variable
  {table : RoomTable}
  {call : Call}
  {roomId : RoomId}
  {plan : UpgradePlan}
  {confirmed requestId : Nat}
  {pending : PendingCommand}
  {history : History}

theorem Assigned.awaitsOnly
    (assigned : Assigned (· ≠ .join) none table)
    (outstanding : table.pendingCommands[requestId]? = some pending)
    (about : pending.transition? = some (.upgrade, roomId)) :
    table.AwaitsOnly roomId requestId pending := by
  have live {other : PendingCommand}
      (joins : other.transition? = some (.upgrade, roomId)) :
      other.instance? ≠ none := by
    cases other <;> simp_all [PendingCommand.transition?,
      PendingCommand.instance?]
  intro otherId other
  constructor
  · rintro ⟨recorded, joins⟩
    obtain rfl := assigned.unique otherId requestId other pending .upgrade roomId
      recorded outstanding joins about (by simp) (live joins) (live about)
    rw [outstanding] at recorded
    exact ⟨rfl, (Option.some.inj recorded).symm⟩
  · rintro ⟨rfl, rfl⟩
    exact ⟨outstanding, about⟩

/-- The join that is outstanding for a room is the next one of its upgrade. -/
theorem Assigned.recorded_join
    {room : Room}
    {clientId : ClientId}
    (assigned : Assigned (· ≠ .join) none table)
    (outstanding : table.pendingCommands[requestId]? = some pending)
    (about : pending.transition? = some (.upgrade, roomId))
    (found : table.rooms[roomId]? = some room)
    (runs : room.Runs plan confirmed)
    (current : plan.order[confirmed]? = some clientId)
    (member : room.members[clientId]?.isSome) :
    pending = plan.record roomId clientId := by
  obtain ⟨instanceId, other, named, listed, there, backs⟩ :=
    assigned.backed requestId pending .upgrade roomId outstanding about (by simp)
      (by cases pending <;> simp_all [PendingCommand.transition?,
        PendingCommand.instance?])
  rw [found] at there
  obtain rfl := Option.some.inj there
  obtain ⟨stored, present⟩ := Option.isSome_iff_exists.1 member
  cases pending with
  | upgradeJoin expected subject joining lifecycleId assignmentEpoch =>
      obtain ⟨upgrade, flying, next, carried, epoch, lives⟩ := backs
      rw [runs.upgrade] at flying
      obtain rfl := Option.some.inj flying
      obtain rfl := Option.some.inj (next.symm.trans current)
      obtain rfl := Option.some.inj (carried.symm.trans runs.assigned)
      simp only [PendingCommand.transition?, Option.some.injEq,
        Prod.mk.injEq, true_and] at about
      rw [UpgradePlan.record, about, ← epoch, runs.assignmentEpoch,
        ← lives stored present, runs.members _ stored present]
  | _ => simp [PendingCommand.transition?] at about

/-- A room that a call leaves in an upgrade it neither starts nor advances ran
it before the call. -/
theorem RoomTable.Consistent.runs
    (consistent : table.Consistent)
    (silent : ¬call.Starts table .upgrade roomId)
    (ran : ∀ former, table.rooms[roomId]? = some former ->
      former.upgrade.isSome -> former.Runs plan confirmed) :
    ∀ room, (table.step call).rooms[roomId]? = some room ->
      room.upgrade.isSome -> room.Runs plan confirmed := by
  refine consistent.step_invariant
    (fun _ middle => ∀ room, middle.rooms[roomId]? = some room ->
      room.upgrade.isSome -> room.Runs plan confirmed)
    (fun phase middle move phase' next taken arises sound kept room found
      running => ?_) ran
  have moved := taken.room sound.wellFormed roomId
  rw [found] at moved
  exact moved.runs (sound.wellFormed.rooms roomId)
    (fun starts => silent ⟨middle, move, arises, starts⟩) running kept

/-- An outstanding join lives on through a call that leaves its upgrade alone. -/
theorem Pursues.aside
    {room : Room}
    (pursues : Pursues roomId requestId pending plan confirmed history table)
    (waits : (table.step call).AwaitsOnly roomId requestId pending)
    (found : (table.step call).rooms[roomId]? = some room)
    (runs : room.Runs plan confirmed) :
    Pursues roomId requestId pending plan confirmed ((table, call) :: history)
      (table.step call) := by
  obtain ⟨clientId, current, rfl⟩ := pursues.current
  obtain ⟨segment, earlier, rfl, barrier⟩ := pursues.past
  exact
    { current := ⟨clientId, current, rfl⟩
      three := pursues.three
      past := ⟨(table, call) :: segment, earlier, rfl,
        barrier.aside current waits⟩
      runs := ⟨room, found, runs⟩ }

/-- The former members are joined in ascending order. -/
theorem begins_ascending
    {former room : Room}
    {authorityRequestId : Nat}
    {now : Instant}
    {joiningClientId : ClientId}
    {token : String}
    {instanceId : InstanceId}
    (asked : call.operation =
      .admitClient authorityRequestId now roomId joiningClientId token)
    (found : table.rooms[roomId]? = some former)
    (direct : former.mode = .p2p)
    (full : ¬former.members.size < maxP2pMembers)
    (third : former.members.contains joiningClientId = false)
    (selected : table.selectWorker 3 = some instanceId)
    (present : (table.step call).rooms[roomId]? = some room)
    (stage : former.Stage plan confirmed room) :
    plan.clients.Pairwise (· < ·) := by
  obtain ⟨lifecycle, counters, lifecycleId, first, joining, connectionId, -, -,
    -, begun⟩ := beginUpgrade_eq authorityRequestId now token roomId third full
      selected
  have stepped : table.step call = (table.beginUpgrade authorityRequestId now
      roomId former joiningClientId token instanceId).2 := by
    simp [RoomTable.step, asked, admitClient, found, third, direct, full,
      selected]
  rw [stepped, begun] at present
  simp only [issueCommand_rooms, modifyWorker_rooms, setRoom_rooms,
    ExtTreeMap.getElem?_insert_self, Option.some.injEq] at present
  subst present
  have same := congrArg Upgrade.orderedClients
    (Option.some.inj stage.upgrade)
  simp only [upgradeOrder, UpgradePlan.order] at same
  rw [← (List.append_inj' same rfl).1]
  have sorted := ExtTreeMap.ordered_keys (t :=
    (former.insertMember joiningClientId (newMember now table.reconnectGrace
      token false lifecycleId)).members)
  exact (sorted.imp Nat.compare_eq_lt.1).filter _

/-- The admission that starts an upgrade raises its barrier. -/
theorem pursues_begins
    {authorityRequestId : Nat}
    {now : Instant}
    {clientId : ClientId}
    {token : String}
    {instanceId : InstanceId}
    {former : Room}
    (asked : call.operation =
      .admitClient authorityRequestId now roomId clientId token)
    (found : table.rooms[roomId]? = some former)
    (direct : former.mode = .p2p)
    (full : ¬former.members.size < maxP2pMembers)
    (fresh : former.members.contains clientId = false)
    (selected : table.selectWorker 3 = some instanceId)
    (wellFormed : former.WellFormed)
    (assigned : Assigned (· ≠ .join) none (table.step call))
    (outstanding : (table.step call).pendingCommands[requestId]? = some pending)
    (about : pending.transition? = some (.upgrade, roomId)) :
    ∃ plan, Pursues roomId requestId pending plan 0 ((table, call) :: history)
      (table.step call) := by
  have pair : former.members.size = 2 := by
    have few := (wellFormed.direct direct).1
    simp only [maxP2pMembers] at few full
    omega
  obtain ⟨plan, rfl, rfl, rfl, covers, ⟨room, present, stage⟩, joins, -⟩ :=
    begins_stage asked found direct pair fresh selected
  have two : plan.clients.length = 2 := by
    rw [covers.clients.length_eq, ExtTreeMap.length_keys, pair]
  have three : plan.order.length = 3 := by simp [UpgradePlan.order, two]
  have first : plan.order[0]? = some (plan.order[0]) :=
    List.getElem?_eq_getElem (by omega)
  obtain ⟨member, enrolled, -⟩ := stage.member covers
    (List.mem_of_getElem? first)
  have recorded := assigned.recorded_join outstanding about present stage.runs
    first (by simp [enrolled])
  have waits := assigned.awaitsOnly outstanding about
  rw [recorded] at waits
  exact ⟨plan,
    { current := ⟨_, first, recorded⟩
      three := three
      past := ⟨[(table, call)], history, rfl, .begins asked found direct covers
        (begins_ascending asked found direct full fresh selected present stage)
        first (by rw [joins, List.take_one, List.head?_eq_getElem?, first]; rfl)
        waits⟩
      runs := ⟨room, present, stage.runs⟩ }⟩

theorem Room.Runs.advance
    {room : Room}
    {clientId : ClientId}
    (runs : room.Runs plan confirmed)
    (current : plan.order[confirmed]? = some clientId) :
    (room.advanceUpgrade (plan.upgrade confirmed) clientId).Runs plan
      (confirmed + 1) where
  assigned := runs.assigned
  assignmentEpoch := runs.assignmentEpoch
  members := runs.members
  upgrade := by
    obtain ⟨here, rfl⟩ := List.getElem?_eq_some_iff.1 current
    simp only [Room.advanceUpgrade, UpgradePlan.upgrade, Option.some.injEq,
      Upgrade.mk.injEq, true_and, and_true]
    exact List.take_append_getElem here

/-- The confirmed join makes way for the next one, if a join is outstanding
afterwards. -/
theorem Pursues.confirms
    {answered : Nat}
    {instanceId : InstanceId}
    {clientId : ClientId}
    {lifecycleId assignmentEpoch : Nat}
    {room : Room}
    {upgrade : Upgrade}
    (pursues : Pursues roomId answered (.upgradeJoin instanceId roomId clientId
      lifecycleId assignmentEpoch) plan confirmed history table)
    (waited : table.AwaitsOnly roomId answered (.upgradeJoin instanceId roomId
      clientId lifecycleId assignmentEpoch))
    (accepts : call.Accepts table instanceId answered (.upgradeJoin instanceId
      roomId clientId lifecycleId assignmentEpoch))
    (found : table.rooms[roomId]? = some room)
    (running : room.upgrade = some upgrade)
    (unfinished : upgrade.nextClient + 1 ≠ upgrade.orderedClients.length)
    (assigned : Assigned (· ≠ .join) none (table.step call))
    (outstanding : (table.step call).pendingCommands[requestId]? = some pending)
    (about : pending.transition? = some (.upgrade, roomId)) :
    Pursues roomId requestId pending plan (confirmed + 1)
      ((table, call) :: history) (table.step call) := by
  have stepped := step_advances accepts found running unfinished
  obtain ⟨joining, current, same⟩ := pursues.current
  obtain ⟨rfl, -, rfl, rfl, rfl⟩ := PendingCommand.upgradeJoin.inj same
  obtain ⟨other, there, runs⟩ := pursues.runs
  obtain rfl := Option.some.inj (found.symm.trans there)
  obtain rfl := Option.some.inj (running.symm.trans runs.upgrade)
  have advanced := runs.advance current
  have older (present : (table.retireCommand answered).pendingCommands[
      requestId]? = some pending) : False := by
    have retired := (waited requestId pending).1
      ⟨recorded_of_retireCommand present, about⟩
    simp [retireCommand_pendingCommands, retired.1] at present
  rcases issueNextUpgradeJoin_cases ((table.retireCommand answered).setRoom
      roomId (room.advanceUpgrade (plan.upgrade confirmed) clientId)) roomId with
    ⟨error, kept⟩ | ⟨stored, flying, nextId, member, carrier, connectionId,
      present, flown, next, enrolled, carried, connected, issued⟩
  · rw [stepped, kept] at outstanding
    exact (older outstanding).elim
  simp only [setRoom_rooms, ExtTreeMap.getElem?_insert_self,
    Option.some.injEq] at present
  subst present
  obtain rfl := Option.some.inj (flown.symm.trans advanced.upgrade)
  obtain rfl := Option.some.inj (carried.symm.trans advanced.assigned)
  rw [advanced.members nextId member enrolled, advanced.assignmentEpoch]
    at issued
  have becomes := stepped.trans (congrArg Prod.snd issued)
  have stored : (table.step call).rooms[roomId]? =
      some (room.advanceUpgrade (plan.upgrade confirmed) clientId) := by
    simp [becomes]
  have recorded := assigned.recorded_join outstanding about stored advanced next
    (by simp [enrolled])
  have waits := assigned.awaitsOnly outstanding about
  rw [recorded] at waits
  obtain ⟨segment, earlier, rfl, barrier⟩ := pursues.past
  have emitted : table.emitted call = [.sfu (.command connectionId
      ⟨table.nextSfuRequestId, plan.join roomId nextId⟩)] := by
    obtain ⟨_, ⟨_, _, asked, -⟩, -⟩ := accepts
    refine emitted_of_append (by simp [asked]) ?_
    rw [becomes]
    rfl
  exact
    { current := ⟨nextId, next, recorded⟩
      three := pursues.three
      past := ⟨(table, call) :: segment, earlier, rfl, barrier.confirms current
        accepts next (by rw [emitted, orders_join]) waits⟩
      runs := ⟨_, stored, advanced⟩ }

end Steps

/-- No upgrade starts or advances in a sweep. -/
theorem Move.not_swept_of_starts
    {before table : RoomTable}
    {call : Call}
    {move : Move}
    {roomId : RoomId}
    (starts : move.Starts .upgrade roomId)
    (arises : Arises before call table move) :
    ¬call.Sweeps := by
  cases move with
  | beginUpgrade =>
      obtain ⟨-, now, token, asked⟩ := arises
      simp [Call.Sweeps, asked]
  | advanceUpgrade =>
      obtain ⟨-, instanceId, pending, result, ⟨_, _, asked, -⟩, -⟩ := arises
      simp [Call.Sweeps, asked]
  | _ => simp [Move.Starts] at starts

/-- Every outstanding join of an upgrade looks back on its barrier, in every run
in which no failed room is deleted from under its worker. -/
theorem pursues_of_run
    {reconnectGrace : Duration}
    {history : History}
    {table : RoomTable}
    (run : (machine reconnectGrace).Run history table)
    (guarded : Machine.Guarded (fun table call => ¬call.StrandsWorker table)
      history)
    {roomId : RoomId}
    {requestId : Nat}
    {pending : PendingCommand}
    (outstanding : table.pendingCommands[requestId]? = some pending)
    (about : pending.transition? = some (.upgrade, roomId)) :
    ∃ plan confirmed, Pursues roomId requestId pending plan confirmed history
      table := by
  induction run generalizing roomId requestId pending with
  | start starts =>
      obtain rfl : _ = new reconnectGrace := starts
      simp at outstanding
  | @next history table call run inductionHypothesis =>
      have consistent := consistent_of_run run
      have assigned := assigned_of_run run guarded.tail
      have later := assigned_of_run (run.next call) guarded
      have past := @inductionHypothesis guarded.tail
      have waits := later.awaitsOnly outstanding about
      obtain ⟨room, found, running⟩ : ∃ room,
          ((machine reconnectGrace).next table call).rooms[roomId]? = some room ∧
            room.upgrade.isSome := by
        obtain ⟨_, room, -, -, found, backs⟩ := later.backed requestId pending
          .upgrade roomId outstanding about (by simp) (by
            cases pending <;> simp_all [PendingCommand.transition?,
              PendingCommand.instance?])
        exact ⟨room, found, backs.inTransition about⟩
      have goes {plan : UpgradePlan} {confirmed : Nat}
          (pursues : Pursues roomId requestId pending plan confirmed history
            table) :
          ∀ former, table.rooms[roomId]? = some former ->
            former.upgrade.isSome -> former.Runs plan confirmed := by
        intro former was _
        obtain ⟨other, there, runs⟩ := pursues.runs
        obtain rfl := Option.some.inj (was.symm.trans there)
        exact runs
      by_cases sweeps : call.Sweeps
      · have silent : ¬call.Starts table .upgrade roomId := by
          rintro ⟨middle, move, arises, starts⟩
          exact Move.not_swept_of_starts starts arises sweeps
        obtain ⟨plan, confirmed, pursues⟩ :=
          past (consistent.recorded outstanding about silent) about
        exact ⟨plan, confirmed, pursues.aside waits found
          (consistent.runs silent (goes pursues) room found running)⟩
      rcases step_direct table call sweeps with same | ⟨move, taken, arises⟩
      · have kept : (machine reconnectGrace).next table call = table := same
        obtain ⟨plan, confirmed, pursues⟩ := past
          ((congrArg (·.pendingCommands[requestId]?) kept).symm.trans
            outstanding) about
        exact ⟨plan, confirmed, pursues.aside waits found (goes pursues room
          ((congrArg (·.rooms[roomId]?) kept).symm.trans found) running)⟩
      by_cases starts : move.Starts .upgrade roomId
      · cases move with
        | beginUpgrade authorityRequestId subject clientId =>
            obtain ⟨rfl, -⟩ := starts
            obtain ⟨-, now, token, asked⟩ := arises
            generalize table.step call = next at taken
            cases taken with
            | beginUpgrade _ _ _ former fresh direct full selected =>
                obtain ⟨plan, pursues⟩ := pursues_begins asked former direct full
                  fresh selected (consistent.wellFormed.rooms subject _ former)
                  later outstanding about
                exact ⟨plan, 0, pursues⟩
        | advanceUpgrade answered subject =>
            obtain ⟨rfl, -⟩ := starts
            obtain ⟨-, instanceId, recorded, accepts⟩ := arises
            generalize table.step call = next at taken
            cases taken with
            | advanceUpgrade joined connected former flying unfinished =>
                obtain rfl := accepts.recorded joined
                obtain ⟨plan, confirmed, pursues⟩ := past joined rfl
                obtain ⟨result, answers, rfl, confirms⟩ := accepts
                exact ⟨plan, confirmed + 1, pursues.confirms
                  (assigned.awaitsOnly joined rfl)
                  ⟨result, answers, rfl, confirms⟩ former flying unfinished later
                  outstanding about⟩
        | _ => simp [Move.Starts] at starts
      · have recorded := (taken.recorded consistent.wellFormed outstanding
          about).resolve_right starts
        obtain ⟨plan, confirmed, pursues⟩ := past recorded about
        have moved := taken.room consistent.wellFormed roomId
        rw [show (table.step call).rooms[roomId]? = some room from found] at moved
        exact ⟨plan, confirmed, pursues.aside waits found (moved.runs
          (consistent.wellFormed.rooms roomId) starts running (goes pursues))⟩

/-- A room is forwarded by the commit of its upgrade only. -/
theorem RoomMoved.forwards
    {roomId : RoomId}
    {move : Move}
    {before : Option Room}
    {after : Room}
    (moved : RoomMoved roomId move before (some after))
    (forwarded : after.mode = .sfu) :
    (∃ former, before = some former ∧ former.mode = .sfu) ∨
      ∃ requestId, move = .commitUpgrade requestId roomId := by
  generalize becomes : some after = result at moved
  cases moved with
  | commitUpgrade requestId => exact Or.inr ⟨requestId, rfl⟩
  | kept =>
      cases becomes
      exact Or.inl ⟨after, rfl, forwarded⟩
  | create | reportFailure | refuseSync | beginUpgrade | abortUpgrade
  | expireUpgrade | expireRoom | downgrade =>
      cases becomes
      cases forwarded
  | register =>
      cases becomes
      exact Or.inl ⟨_, rfl, by simpa using forwarded⟩
  | removeDirect _ _ _ direct | expireMembers _ direct =>
      obtain rfl := Room.eq_of_stored becomes.symm
      simp [direct, Room.eraseMember] at forwarded
  | removeFailed | completeLeave =>
      obtain rfl := Room.eq_of_stored becomes.symm
      exact Or.inl ⟨_, rfl, forwarded⟩
  | _ =>
      cases becomes
      exact Or.inl ⟨_, rfl, forwarded⟩

/-- Only a single move can forward a room, and it is the commit of an upgrade. -/
theorem RoomTable.Consistent.forwards
    {table : RoomTable}
    {call : Call}
    {roomId : RoomId}
    (consistent : table.Consistent)
    (waiting : table.mode? roomId ≠ some .sfu)
    (forwarded : (table.step call).mode? roomId = some .sfu) :
    ∃ requestId, Arises table call table (.commitUpgrade requestId roomId) ∧
      Moved none table (.commitUpgrade requestId roomId) none
        (table.step call) := by
  obtain ⟨_, ⟨requestId, rfl⟩, arises, taken⟩ := consistent.enters
    (fun _ _ _ moved forwarded => moved.forwards forwarded)
    (by
      rintro middle _ ⟨requestId, rfl⟩ ⟨-, _, _, _, ⟨_, _, asked, -⟩, -⟩
      simp [Call.Sweeps, asked]) waiting forwarded
  exact ⟨requestId, arises, taken⟩

/-- The barrier of an upgrade. Whenever a call switches a room to SFU, an
admission earlier in the run has started an upgrade of the room to one worker,
the worker has confirmed the joins of the two former members, in ascending
order, and of the admitted client, which comes last, each asked for when the one
before it had been confirmed, and the call itself confirms the last one. The room
stays with that worker, and every member of the forwarded room is one of the
three, under the lifecycle of its confirmed join. -/
theorem upgrade_barrier
    {reconnectGrace : Duration}
    {history : History}
    {table : RoomTable}
    {call : Call}
    {roomId : RoomId}
    (run : (RoomTable.machine reconnectGrace).Run history table)
    (guarded : Machine.Guarded (fun table call => ¬call.StrandsWorker table)
      history)
    (waiting : table.mode? roomId ≠ some .sfu)
    (forwarded : (table.step call).mode? roomId = some .sfu) :
    ∃ (plan : UpgradePlan) (requestId : Nat) (segment earlier : History)
      (room : Room),
      history = segment ++ earlier ∧ plan.clients.length = 2 ∧
      Barrier roomId plan 2 requestId segment table ∧
      call.Accepts table plan.instanceId requestId
        (plan.record roomId plan.joiningClientId) ∧
      (table.step call).rooms[roomId]? = some room ∧
      room.assignedInstance = some plan.instanceId ∧
      room.assignmentEpoch = plan.assignmentEpoch ∧
      ∀ (clientId : ClientId) (member : Member),
        room.members[clientId]? = some member ->
          clientId ∈ plan.order ∧
            member.lifecycleId = plan.lifecycle clientId := by
  have consistent := RoomTable.consistent_of_run run
  obtain ⟨requestId, ⟨-, instanceId, recorded, accepts⟩, taken⟩ :=
    consistent.forwards waiting forwarded
  obtain ⟨room, found⟩ : ∃ room, (table.step call).rooms[roomId]? = some room := by
    obtain ⟨room, found, -⟩ := Option.map_eq_some_iff.1 forwarded
    exact ⟨room, found⟩
  generalize table.step call = next at taken found ⊢
  cases taken with
  | @commitUpgrade _ _ _ _ clientId _ _ former upgrade _ order outstanding
      connected there flying finished =>
      obtain rfl := accepts.recorded outstanding
      obtain ⟨plan, confirmed, pursues⟩ := pursues_of_run run guarded outstanding
        rfl
      obtain ⟨joining, current, same⟩ := pursues.current
      obtain ⟨rfl, -, rfl, rfl, rfl⟩ := PendingCommand.upgradeJoin.inj same
      obtain ⟨other, present, runs⟩ := pursues.runs
      obtain rfl := Option.some.inj (there.symm.trans present)
      obtain rfl := Option.some.inj (flying.symm.trans runs.upgrade)
      obtain ⟨segment, earlier, rfl, barrier⟩ := pursues.past
      have three := pursues.three
      obtain rfl : confirmed = 2 := by
        simp only [UpgradePlan.upgrade] at finished
        omega
      have two : plan.clients.length = 2 := by
        simpa [UpgradePlan.order] using three
      obtain rfl : clientId = plan.joiningClientId := by
        simp [UpgradePlan.order, two] at current
        exact current.symm
      have becomes : room = (former.advanceUpgrade (plan.upgrade 2)
          plan.joiningClientId).commitSfu := by
        have commit := commitUpgrade_eq order
          (former.advanceUpgrade (plan.upgrade 2) plan.joiningClientId)
          (show ((table.retireCommand requestId).setRoom roomId
            (former.advanceUpgrade (plan.upgrade 2)
              plan.joiningClientId)).rooms[roomId]? = _ by simp) rfl
        rw [commit] at found
        split at found <;> simpa using found.symm
      obtain ⟨result, answers, rfl, confirms⟩ := accepts
      refine ⟨plan, requestId, segment, earlier, room, rfl, two, barrier,
        ⟨result, answers, rfl, confirms⟩, found,
        by rw [becomes]; exact runs.assigned,
        by rw [becomes]; exact runs.assignmentEpoch,
        fun clientId member enrolled => ?_⟩
      simp only [becomes, Room.commitSfu, Room.advanceUpgrade,
        ExtTreeMap.getElem?_map, Option.map_eq_some_iff] at enrolled
      obtain ⟨earlierMember, was, rfl⟩ := enrolled
      have listed := ((consistent.wellFormed.rooms roomId former there).upgrade _
        flying).2.2.2.2.2 clientId (by simp [was])
      exact ⟨listed, runs.members clientId earlierMember was⟩

/-- The last confirmation, after which the room is forwarded. -/
theorem upgrade_barrier_forwarded :
    ∃ (plan : UpgradePlan) (requestId : Nat) (segment : History),
      Barrier exampleRoomId plan 2 requestId segment
        (RoomTable.played 0 (upgradingOperations ++
          [joined 1 1 2, joined 2 2 2])).2 ∧
      plan.joiningClientId = 3 := by
  obtain ⟨plan, requestId, segment, earlier, room, -, -, barrier, accepts, -⟩ :=
    @upgrade_barrier 0 _ _ ⟨joined 3 3 1, .sorted⟩ exampleRoomId
      (RoomTable.played_run 0 (upgradingOperations ++
        [joined 1 1 2, joined 2 2 2]))
      (RoomTable.played_guarded 0 _ fun operation listed table => by
        rintro ⟨roomId, clientId, instanceId, room, ⟨_, _, _, asked, -⟩, -⟩
        simp only at asked
        subst asked
        simp [upgradingOperations, joined] at listed)
      (by decide +kernel) (by decide +kernel)
  refine ⟨plan, requestId, segment, barrier, ?_⟩
  obtain ⟨result, ⟨connectionId, now, asked, -, outstanding⟩, -⟩ := accepts
  simp only [joined, Operation.handleSfuInput.injEq,
    Sfu.Input.commandResult.injEq, Sfu.CommandResult.mk.injEq] at asked
  obtain ⟨-, -, ⟨rfl, -⟩, -⟩ := asked
  have recorded : (RoomTable.played 0 (upgradingOperations ++
      [joined 1 1 2, joined 2 2 2])).2.pendingCommands[3]? =
      some (.upgradeJoin "sfu" exampleRoomId 3 1 1) := by
    decide +kernel
  rw [recorded] at outstanding
  exact (PendingCommand.upgradeJoin.inj
    (Option.some.inj outstanding)).2.2.1.symm

end V2
end Signaling
