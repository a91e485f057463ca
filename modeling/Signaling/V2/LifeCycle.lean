import Signaling.V2.Emissions

/-!
# The life cycle of a room

The modes that a room passes through and the announcements of its failure. A
report, a refused synchronization or an expiry fails a room in whatever mode it
is, and a late answer to an upgrade join turns a failed room around; the life
cycle is kept by the calls that derail no room.
-/

namespace Signaling
namespace V2

open Std (ExtTreeMap ExtTreeSet)
open RoomTable

/-- The changes of mode that a room may undergo. -/
inductive RoomMode.Edge : RoomMode -> RoomMode -> Prop
  | beginUpgrade : Edge .p2p .upgrading
  | commitUpgrade : Edge .upgrading .sfu
  | abortUpgrade : Edge .upgrading .p2p
  | downgrade : Edge .sfu .p2p
  | failUpgrading : Edge .upgrading .failed
  | failForwarded : Edge .sfu .failed

/-- `LifeStep before after failures` is one step of a room's life, an absent
room having no mode: it is created in P2P, deleted, keeps its mode, or changes
it along an edge; its failure is announced once when it fails and never
otherwise. -/
inductive LifeStep : Option RoomMode -> Option RoomMode -> Nat -> Prop
  | same {mode : Option RoomMode} : LifeStep mode mode 0
  | create : LifeStep none (some .p2p) 0
  | drop {mode : RoomMode} : LifeStep (some mode) none 0
  | turn {mode after : RoomMode}
      (edge : mode.Edge after) (standing : after ≠ .failed) :
      LifeStep (some mode) (some after) 0
  | fail {mode : RoomMode} (edge : mode.Edge .failed) :
      LifeStep (some mode) (some .failed) 1

/-- The action announces the failure of the room. -/
def Action.announcesFailure
    (roomId : RoomId) : Action -> Bool
  | .roomFailed failedId _ _ => failedId = roomId
  | _ => false

/-- The number of announcements of a room's failure. -/
def failures
    (roomId : RoomId)
    (actions : List Action) : Nat :=
  actions.countP (Action.announcesFailure roomId)

/-- Every room takes one step of its life in the call. -/
def LifeCycleStep
    (table : RoomTable)
    (call : Call) : Prop :=
  ∀ roomId, LifeStep (table.mode? roomId) ((table.step call).mode? roomId)
    (failures roomId (table.emitted call))

/-- A call derails a room: it fails a room that no worker serves, it ends the
upgrade of a failed room, or a room is on the lists of two workers that expire
together. -/
inductive Call.Derails
    (call : Call)
    (table : RoomTable) : Prop
  | reports
      {instanceId : InstanceId} {roomId : RoomId} {room : Room}
      (reported : call.Reports table instanceId roomId)
      (found : table.rooms[roomId]? = some room)
      (idle : ¬(room.mode = .upgrading ∨ room.mode = .sfu))
  | refusesSync
      {instanceId expected : InstanceId} {requestId : Nat} {roomId : RoomId}
      {assignmentEpoch : Nat} {replay : List Sfu.Command} {room : Room}
      (refuses : call.Refuses table instanceId requestId
        (.syncRoom expected roomId assignmentEpoch replay))
      (found : table.rooms[roomId]? = some room)
      (idle : ¬(room.mode = .upgrading ∨ room.mode = .sfu))
  | expires
      {now : Instant} {instanceId : InstanceId} {roomId : RoomId} {room : Room}
      (asked : call.operation = .handleTimeout now)
      (expires : table.Expires now instanceId)
      (listed : table.Lists instanceId roomId)
      (found : table.rooms[roomId]? = some room)
      (idle : ¬(room.mode = .upgrading ∨ room.mode = .sfu))
  | expiresTwice
      {now : Instant} {instanceId otherId : InstanceId} {roomId : RoomId}
      {room : Room}
      (asked : call.operation = .handleTimeout now)
      (expires : table.Expires now instanceId)
      (listed : table.Lists instanceId roomId)
      (different : otherId ≠ instanceId)
      (expiresToo : table.Expires now otherId)
      (listedToo : table.Lists otherId roomId)
      (found : table.rooms[roomId]? = some room)
  | refusesJoin
      {instanceId expected : InstanceId} {requestId : Nat} {roomId : RoomId}
      {clientId : ClientId} {lifecycleId assignmentEpoch : Nat} {room : Room}
      (refuses : call.Refuses table instanceId requestId
        (.upgradeJoin expected roomId clientId lifecycleId assignmentEpoch))
      (found : table.rooms[roomId]? = some room)
      (failed : room.mode = .failed)
      (upgrading : room.upgrade.isSome)
  | acceptsLastJoin
      {instanceId expected : InstanceId} {requestId : Nat} {roomId : RoomId}
      {clientId : ClientId} {lifecycleId assignmentEpoch : Nat} {room : Room}
      {upgrade : Upgrade}
      (accepts : call.Accepts table instanceId requestId
        (.upgradeJoin expected roomId clientId lifecycleId assignmentEpoch))
      (found : table.rooms[roomId]? = some room)
      (failed : room.mode = .failed)
      (upgrading : room.upgrade = some upgrade)
      (finished : upgrade.nextClient + 1 = upgrade.orderedClients.length)

/-! ## Announcements -/

@[simp] theorem failures_append
    (roomId : RoomId)
    (first second : List Action) :
    failures roomId (first ++ second) =
      failures roomId first + failures roomId second := by
  simp [failures, List.countP_append]

theorem failures_of_plain
    (roomId : RoomId)
    (actions : List Action)
    (plain : ∀ action ∈ actions, action.Plain) :
    failures roomId actions = 0 := by
  simp only [failures, List.countP_eq_zero]
  intro action present
  have simple := plain action present
  cases action <;> simp_all [Action.Plain, Action.announcesFailure]

@[simp] theorem failures_removalActions
    (roomId otherId : RoomId)
    (pendingLeave : PendingLeave)
    (clientId : ClientId)
    (result : Except String Unit) :
    failures roomId (removalActions pendingLeave otherId clientId result) =
      0 := by
  unfold removalActions failures
  cases pendingLeave.authorityRequestId <;>
    simp [Action.announcesFailure]

theorem RollsBack.failures
    {table : RoomTable}
    {someId : RoomId}
    {room : Room}
    {upgrade : Upgrade}
    {reason : String}
    {actions : List Action}
    (rolled : RollsBack table someId room upgrade reason actions)
    (roomId : RoomId) :
    V2.failures roomId actions = 0 := by
  obtain ⟨leaves, answers, rfl, plain, answered, -⟩ := rolled
  rw [failures_append, failures_of_plain roomId _ plain]
  rcases answered with rfl | rfl <;>
    simp [V2.failures, abortAnswer, Action.announcesFailure]

theorem failures_failureActions
    (table : RoomTable)
    (order : VisitOrder)
    (roomId failedId : RoomId)
    (reason : String) :
    failures roomId (failureActions table order failedId reason) =
      if failedId = roomId ∧ table.rooms[roomId]?.isSome then 1 else 0 := by
  unfold failureActions failures
  by_cases same : failedId = roomId
  · subst same
    cases found : table.rooms[failedId]? <;>
      simp [Action.announcesFailure]
  · cases found : table.rooms[failedId]? <;>
      simp [Action.announcesFailure, same]

theorem failures_expiryActions
    (order : VisitOrder)
    (roomId failedId : RoomId)
    (room : Room) :
    failures roomId (expiryActions order failedId room) =
      if failedId = roomId then 1 else 0 := by
  have announced (actions : List Action) : failures roomId (actions ++
      [.roomFailed failedId (room.fail.clients order failedId)
        "WORKER_UNAVAILABLE"]) =
      failures roomId actions + if failedId = roomId then 1 else 0 := by
    by_cases same : failedId = roomId <;>
      simp [failures, Action.announcesFailure, same]
  unfold expiryActions
  rw [announced, failures_append]
  cases room.pendingJoin <;> cases room.pendingLeave <;>
    simp [failures_removalActions] <;> simp [failures, Action.announcesFailure]

/-- The moves that may announce a failure. -/
def Move.MayFail : Move -> Prop
  | .reportFailure _ _ | .refuseSync _ _ | .expireRoom _ _ => True
  | _ => False

/-- Every other move announces no failure. -/
theorem Emits.failures_eq_zero
    {table : RoomTable}
    {move : Move}
    {actions : List Action}
    (emits : Emits table move actions)
    (quiet : ¬move.MayFail)
    (roomId : RoomId) :
    failures roomId actions = 0 := by
  cases move with
  | dropWithLeave | requestLeave | retryLeave =>
      obtain ⟨_, _, _, _, -, -, -, -, action, rfl, plain, -⟩ := emits
      exact failures_of_plain roomId _ (by simpa using plain)
  | reportFailure | refuseSync | expireRoom => exact absurd trivial quiet
  | commitUpgrade =>
      obtain ⟨room, upgrade, order, -, -, rfl⟩ := emits
      cases room.members[upgrade.joiningClientId]? <;>
        simp [failures, commitActions, Action.announcesFailure]
  | abortUpgrade =>
      obtain ⟨_, _, _, -, -, rolled⟩ := emits
      exact rolled.failures roomId
  | completeJoin instanceId requestId otherId clientId =>
      obtain ⟨room, pendingJoin, -, -, rfl⟩ := emits
      cases room.members[clientId]? <;>
        simp [failures, Action.announcesFailure]
  | refuseJoin =>
      obtain ⟨_, _, _, -, -, rfl⟩ := emits
      simp [failures, Action.announcesFailure]
  | completeLeave =>
      obtain ⟨_, _, -, -, rfl⟩ := emits
      simp
  | refuseLeave =>
      obtain ⟨_, _, _, _, -, -, rfl⟩ := emits
      simp
  | downgrade =>
      obtain ⟨_, _, _, _, leaves, -, -, -, rfl, plain, -⟩ := emits
      rw [failures_append, failures_of_plain roomId _ plain]
      simp [failures, Action.announcesFailure]
  | _ => exact failures_of_plain roomId _ emits

/-- A move announces no failure of a room that it does not touch. -/
theorem Emits.failures_elsewhere
    {table : RoomTable}
    {move : Move}
    {actions : List Action}
    (emits : Emits table move actions)
    (roomId : RoomId)
    (elsewhere : move.room? ≠ some roomId ∨ table.rooms[roomId]? = none) :
    failures roomId actions = 0 := by
  have absent (failedId : RoomId) (about : move.room? = some failedId) :
      ¬(failedId = roomId ∧ table.rooms[roomId]?.isSome) := by
    rintro ⟨rfl, stands⟩
    rcases elsewhere with other | none_found
    · exact other about
    · simp [none_found] at stands
  cases move with
  | reportFailure instanceId failedId =>
      obtain ⟨order, reason, ack, plain, rfl⟩ := emits
      rw [failures_append, failures_failureActions,
        if_neg (absent failedId rfl),
        failures_of_plain roomId [ack] (by simpa using plain)]
  | refuseSync requestId failedId =>
      obtain ⟨order, rfl⟩ := emits
      rw [failures_failureActions, if_neg (absent failedId rfl)]
  | expireRoom instanceId failedId =>
      obtain ⟨room, found, ⟨-, upgrade, -, rolled⟩ | ⟨-, order, rfl⟩⟩ := emits
      · exact rolled.failures roomId
      · rw [failures_expiryActions, if_neg]
        rintro rfl
        exact absent failedId rfl ⟨rfl, by simp [found]⟩
  | _ => exact emits.failures_eq_zero (by simp [Move.MayFail]) roomId

/-! ## Moves -/

/-- A room that keeps its mode, or any room that goes to P2P, has no failure to
announce. -/
theorem LifeStep.silent
    {mode after : Option RoomMode}
    {count : Nat}
    (life : LifeStep mode after count)
    (standing : after = mode ∨ after = some .p2p) :
    count = 0 := by
  cases life with
  | same | create | drop | turn => rfl
  | fail edge => rcases standing with same | direct <;> cases edge <;> simp_all

/-- A room whose members go may be deleted. -/
theorem LifeStep.stored
    {room after : Room}
    (same : after.mode = room.mode) :
    LifeStep (some room.mode) (after.stored.map Room.mode) 0 := by
  unfold Room.stored
  split
  · exact .drop
  · exact same ▸ .same

/-- Only an admission creates a room. -/
theorem RoomMoved.created
    {roomId : RoomId}
    {move : Move}
    {after : Option Room}
    (moved : RoomMoved roomId move none after) :
    after = none ∨ ∃ clientId, move = .create roomId clientId := by
  cases moved with
  | kept => exact Or.inl rfl
  | create clientId => exact Or.inr ⟨clientId, rfl⟩

/-- A report or a refused synchronization fails a room that was on its way to
the worker or carried by it. -/
theorem lifeStep_fail
    {before : RoomTable}
    {call : Call}
    {room : Room}
    (orderly : ¬call.Derails before)
    (idle : ¬(room.mode = .upgrading ∨ room.mode = .sfu) ->
      call.Derails before) :
    LifeStep (some room.mode) (some .failed) 1 := by
  have busy : room.mode = .upgrading ∨ room.mode = .sfu := by
    by_contra other
    exact orderly (idle other)
  rcases busy with mode | mode <;> rw [mode]
  · exact .fail .failUpgrading
  · exact .fail .failForwarded

section Moves

variable
  {before table next : RoomTable}
  {call : Call}
  {phase phase' : Option InstanceId}
  {move : Move}
  {actions : List Action}

/-- A room that is given up in an orderly call was there before the call, on its
way to a worker or carried by one. -/
theorem Arises.given_up
    {instanceId : InstanceId}
    {roomId : RoomId}
    {room : Room}
    (arises : Arises before call table (.expireRoom instanceId roomId))
    (orderly : ¬call.Derails before)
    (stored : table.rooms[roomId]? = some room)
    (uncreated : (∃ now, call.operation = .handleTimeout now) ->
      before.rooms[roomId]? = none -> table.rooms[roomId]? = none) :
    before.rooms[roomId]? = some room ∧
      (room.mode = .upgrading ∨ room.mode = .sfu) := by
  obtain ⟨now, asked, expires, listed, same | twice⟩ := arises
  · rw [stored] at same
    refine ⟨same.symm, ?_⟩
    by_contra idle
    exact orderly (.expires asked expires listed same.symm idle)
  · obtain ⟨otherId, different, expiresToo, listedToo⟩ := twice
    cases found : before.rooms[roomId]? with
    | none => simp [uncreated ⟨now, asked⟩ found] at stored
    | some former =>
        exact absurd (.expiresTwice asked expires listed different expiresToo
          listedToo found) orderly

/-- One move of a call keeps the mode of a room, deletes a P2P room, or takes a
room that the call has not touched yet one step of its life. -/
theorem Moved.life
    (taken : Moved phase table move phase' next)
    (arises : Arises before call table move)
    (orderly : ¬call.Derails before)
    (wellFormed : table.WellFormed)
    (emits : Emits table move actions)
    (roomId : RoomId)
    (uncreated : (∃ now, call.operation = .handleTimeout now) ->
      before.rooms[roomId]? = none -> table.rooms[roomId]? = none) :
    (next.mode? roomId = table.mode? roomId ∧ failures roomId actions = 0) ∨
      (next.mode? roomId = none ∧ table.mode? roomId = some .p2p ∧
        failures roomId actions = 0) ∨
      (table.rooms[roomId]? = before.rooms[roomId]? ∧
        LifeStep (table.mode? roomId) (next.mode? roomId)
          (failures roomId actions)) := by
  have here := taken.room wellFormed roomId
  have shape (room : Room) (found : table.rooms[roomId]? = some room) :=
    wellFormed.rooms roomId room found
  unfold RoomTable.mode?
  generalize stored : table.rooms[roomId]? = room at here uncreated shape ⊢
  generalize next.rooms[roomId]? = after at here ⊢
  cases here with
  | kept elsewhere =>
      exact Or.inl ⟨rfl, emits.failures_elsewhere roomId (stored ▸ elsewhere)⟩
  | joinDirect | register | dropWithGrace | queueMessage | advanceUpgrade
  | clearDeadline | rearmGrace | beginJoin | dropWithLeave | requestLeave
  | retryLeave | completeJoin | refuseJoin | refuseLeave =>
      exact Or.inl ⟨by first | rfl | simp,
        emits.failures_eq_zero (by simp [Move.MayFail]) roomId⟩
  | create =>
      obtain ⟨rfl, -⟩ := arises
      rw [emits.failures_eq_zero (by simp [Move.MayFail]) roomId]
      exact Or.inr (Or.inr ⟨stored.symm, .create⟩)
  | beginUpgrade now grace token lifecycleId lifecycle instanceId fresh direct =>
      obtain ⟨rfl, -⟩ := arises
      rw [emits.failures_eq_zero (by simp [Move.MayFail]) roomId]
      simp only [Option.map_some, direct]
      exact Or.inr (Or.inr ⟨stored.symm, .turn .beginUpgrade (by rintro ⟨⟩)⟩)
  | removeFailed | removeDirect | completeLeave =>
      obtain ⟨rfl, -⟩ := arises
      rw [emits.failures_eq_zero (by simp [Move.MayFail]) roomId]
      exact Or.inr (Or.inr ⟨stored.symm, .stored (by simp [Room.afterLeave])⟩)
  | expireMembers now direct =>
      rename_i room
      have quiet := emits.failures_eq_zero (by simp [Move.MayFail]) roomId
      unfold Room.stored
      split
      · exact Or.inr (Or.inl ⟨rfl, by simp [direct], quiet⟩)
      · exact Or.inl ⟨by simp, quiet⟩
  | reportFailure instanceId =>
      rename_i room
      obtain ⟨rfl, reported⟩ := arises
      obtain ⟨order, reason, ack, plain, rfl⟩ := emits
      rw [failures_append, failures_failureActions,
        failures_of_plain roomId [ack] (by simpa using plain),
        if_pos ⟨rfl, by simp [stored]⟩]
      exact Or.inr (Or.inr ⟨stored.symm,
        lifeStep_fail orderly fun idle => .reports reported stored idle⟩)
  | refuseSync requestId =>
      rename_i room
      obtain ⟨rfl, instanceId, pending, refuses⟩ := arises
      obtain ⟨order, rfl⟩ := emits
      rw [failures_failureActions, if_pos ⟨rfl, by simp [stored]⟩]
      cases taken with
      | refuseSync order outstanding =>
          obtain rfl := refuses.recorded outstanding
          exact Or.inr (Or.inr ⟨stored.symm, lifeStep_fail
            orderly fun idle => .refusesSync refuses stored idle⟩)
  | commitUpgrade requestId upgrading finished =>
      rename_i room upgrade clientId
      obtain ⟨rfl, instanceId, pending, accepts⟩ := arises
      rw [emits.failures_eq_zero (by simp [Move.MayFail]) roomId]
      have running : room.mode = .upgrading := by
        rcases ((shape room rfl).upgrade upgrade upgrading).2.1 with busy | failed
        · exact busy
        · cases taken with
          | commitUpgrade order outstanding =>
              obtain rfl := accepts.recorded outstanding
              exact absurd (.acceptsLastJoin accepts stored failed upgrading
                finished) orderly
      simp only [Option.map_some, running]
      exact Or.inr (Or.inr ⟨stored.symm, .turn .commitUpgrade (by rintro ⟨⟩)⟩)
  | abortUpgrade requestId upgrading =>
      rename_i room upgrade
      obtain ⟨rfl, instanceId, pending, refuses⟩ := arises
      rw [emits.failures_eq_zero (by simp [Move.MayFail]) roomId]
      have running : room.mode = .upgrading := by
        rcases ((shape room rfl).upgrade upgrade upgrading).2.1 with busy | failed
        · exact busy
        · cases taken with
          | abortUpgrade reason outstanding =>
              obtain rfl := refuses.recorded outstanding
              exact absurd (.refusesJoin refuses stored failed
                (by simp [upgrading])) orderly
      simp only [Option.map_some, running]
      exact Or.inr (Or.inr ⟨stored.symm, .turn .abortUpgrade (by rintro ⟨⟩)⟩)
  | downgrade forwarded small noJoin noLeave clients =>
      rename_i room initiatorClientId others
      obtain ⟨now, other, asked, same, found, -⟩ := arises
      rw [stored] at found
      rw [emits.failures_eq_zero (by simp [Move.MayFail]) roomId]
      simp only [Option.map_some, forwarded]
      exact Or.inr (Or.inr ⟨by rw [found, same], .turn .downgrade (by rintro ⟨⟩)⟩)
  | expireUpgrade instanceId upgrading running =>
      rename_i room upgrade
      obtain ⟨same, -⟩ := arises.given_up orderly stored (stored ▸ uncreated)
      obtain ⟨other, found, ⟨-, flying, -, rolled⟩ | ⟨settled, -⟩⟩ := emits
      · rw [rolled.failures roomId]
        simp only [Option.map_some, upgrading]
        exact Or.inr (Or.inr ⟨same.symm, .turn .abortUpgrade (by rintro ⟨⟩)⟩)
      · rw [stored] at found
        cases found
        exact absurd upgrading settled
  | expireRoom instanceId settled =>
      rename_i room
      obtain ⟨same, upgrading | forwarded⟩ :=
        arises.given_up orderly stored (stored ▸ uncreated)
      · exact absurd upgrading settled
      obtain ⟨other, found, ⟨upgrading, -⟩ | ⟨-, order, rfl⟩⟩ := emits
      · rw [stored] at found
        cases found
        exact absurd upgrading settled
      · rw [failures_expiryActions, if_pos rfl]
        simp only [Option.map_some, forwarded]
        exact Or.inr (Or.inr ⟨same.symm, .fail .failForwarded⟩)

end Moves

/-! ## Calls and runs -/

/-- Every room takes one step of its life in an orderly call. -/
theorem RoomTable.Consistent.lifeCycleStep
    {table : RoomTable}
    {call : Call}
    (consistent : table.Consistent)
    (orderly : ¬call.Derails table) :
    LifeCycleStep table call := by
  by_cases polls : call.operation = .pollAction
  · intro roomId
    have silent : table.emitted call = [] := by
      simp [RoomTable.emitted, polls]
    have rooms : (table.step call).rooms = table.rooms := by
      unfold RoomTable.step RoomTable.pollAction
      rw [polls]
      dsimp only
      split <;> rfl
    simp only [silent, RoomTable.mode?, rooms]
    exact .same
  refine (consistent.emitted_invariant (fun _ middle new =>
    ((∃ now, call.operation = .handleTimeout now) -> ∀ roomId : RoomId,
      table.rooms[roomId]? = none -> middle.rooms[roomId]? = none) ∧
    ∀ roomId, LifeStep (table.mode? roomId) (middle.mode? roomId)
      (failures roomId new)) polls ?_
    ⟨fun _ _ absent => absent, fun _ => .same⟩).2
  rintro phase middle earlier move phase' next actions taken arises
    middleConsistent emits ⟨uncreated, lives⟩
  refine ⟨fun timeout roomId absent => ?_, fun roomId => ?_⟩
  · have here := taken.room middleConsistent.wellFormed roomId
    rw [uncreated timeout roomId absent] at here
    rcases here.created with gone | ⟨clientId, rfl⟩
    · exact gone
    · obtain ⟨-, _, _, _, admits⟩ := arises
      obtain ⟨now, asked⟩ := timeout
      rw [asked] at admits
      cases admits
  · have life := lives roomId
    rw [failures_append]
    rcases taken.life arises orderly middleConsistent.wellFormed emits roomId
      (fun timeout => uncreated timeout roomId) with
      ⟨same, silent⟩ | ⟨gone, direct, silent⟩ | ⟨untouched, turns⟩
    · rw [same, silent]
      exact life
    · have before := life.silent (Or.inr direct)
      rw [direct] at life
      rw [gone, silent, before]
      cases table.mode? roomId with
      | none => exact .same
      | some mode => exact .drop
    · have same : middle.mode? roomId = table.mode? roomId := by
        rw [RoomTable.mode?, untouched]
        rfl
      rw [life.silent (Or.inl same), Nat.zero_add, ← same]
      exact turns

/-- The announcements of a room's failure since the room was last created. -/
def announced (roomId : RoomId) : History -> Nat
  | [] => 0
  | (table, call) :: older =>
      failures roomId (table.emitted call) +
        if table.mode? roomId = none then 0 else announced roomId older

/-- Every step of a run is one step of each room's life, and the failure of a
room has been announced exactly once when the room has failed and never
otherwise. -/
structure LifeCycle
    (history : History)
    (table : RoomTable) : Prop where
  steps : ∀ event ∈ history, LifeCycleStep event.1 event.2
  announced : ∀ roomId mode, table.mode? roomId = some mode ->
    V2.announced roomId history = if mode = .failed then 1 else 0

theorem LifeCycle.start
    (reconnectGrace : Duration) :
    LifeCycle [] (RoomTable.new reconnectGrace) where
  steps := by simp
  announced := by simp [RoomTable.mode?]

/-- One step of every room's life continues a life cycle. -/
theorem LifeCycle.next
    {history : History}
    {table : RoomTable}
    {call : Call}
    (kept : LifeCycle history table)
    (step : LifeCycleStep table call) :
    LifeCycle ((table, call) :: history) (table.step call) where
  steps event present := by
    rcases List.mem_cons.1 present with rfl | earlier
    · exact step
    · exact kept.steps event earlier
  announced roomId mode stands := by
    have counted := kept.announced roomId
    have life := step roomId
    rw [stands] at life
    simp only [V2.announced]
    generalize failures roomId (table.emitted call) = count at life ⊢
    generalize table.mode? roomId = former at life counted ⊢
    cases life with
    | same => simpa using counted _ rfl
    | create => simp
    | turn edge standing =>
        rw [if_neg (by simp), counted _ rfl, if_neg (by cases edge <;> simp),
          if_neg standing]
    | fail edge =>
        rw [if_neg (by simp), counted _ rfl, if_neg (by cases edge <;> simp),
          if_pos rfl]

/-- The life cycle of every room is kept in every run whose calls derail no
room. -/
theorem life_cycle_kept
    {reconnectGrace : Duration}
    {history : History}
    {table : RoomTable}
    (run : (RoomTable.machine reconnectGrace).Run history table)
    (guarded : Machine.Guarded (fun table call => ¬call.Derails table)
      history) :
    LifeCycle history table := by
  refine run.history_invariant LifeCycle (fun table starts => ?_) (fun earlier before call ran orderly kept => ?_)
    guarded
  · obtain rfl : table = RoomTable.new reconnectGrace := starts
    exact .start reconnectGrace
  · exact kept.next ((RoomTable.consistent_of_run ran).lifeCycleStep orderly)

theorem life_cycle_upgrading :
    LifeCycle (RoomTable.played 0 upgradingOperations).1
      (RoomTable.played 0 upgradingOperations).2 ∧
    (RoomTable.played 0 upgradingOperations).2.mode? exampleRoomId =
      some .upgrading := by
  refine ⟨life_cycle_kept (RoomTable.played_run 0 upgradingOperations) ?_,
    by decide +kernel⟩
  refine RoomTable.played_guarded 0 _ fun operation listed table derails => ?_
  simp only [upgradingOperations, List.mem_cons, List.not_mem_nil,
    or_false] at listed
  rcases derails with ⟨⟨_, _, _, _, _, _, _, asked, -⟩, -, -⟩ |
    ⟨⟨_, ⟨_, _, asked, -⟩, -⟩, -, -⟩ | ⟨asked, -, -, -, -⟩ |
    ⟨asked, -, -, -, -, -, -⟩ | ⟨⟨_, ⟨_, _, asked, -⟩, -⟩, -, -, -⟩ |
    ⟨⟨_, ⟨_, _, asked, -⟩, -⟩, -, -, -, -⟩ <;>
    rcases listed with rfl | rfl | rfl | rfl | rfl <;> cases asked

/-- A worker's report takes a P2P room to its failure. -/
theorem report_skips_upgrade :
    ¬∀ (history : History) (table : RoomTable),
      (RoomTable.machine 0).Run history table -> LifeCycle history table := by
  intro kept
  let operations : List Operation :=
    [.handleSfuInput (.register 1 "sfu" 1 ⟨1, 3⟩),
      .admitClient 1 0 exampleRoomId 1 "first"]
  have step := (kept _ _ ((RoomTable.played_run 0 operations).next
    failureReport)).steps _ List.mem_cons_self exampleRoomId
  have direct : (RoomTable.played 0 operations).2.mode? exampleRoomId =
      some .p2p := by
    decide +kernel
  have failed : ((RoomTable.played 0 operations).2.step failureReport).mode?
      exampleRoomId = some .failed := by
    decide +kernel
  dsimp only at step
  rw [direct, failed] at step
  cases step with
  | fail edge => cases edge

end V2
end Signaling
