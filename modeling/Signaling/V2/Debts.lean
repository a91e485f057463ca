import Signaling.Support.MapValues
import Signaling.V2.Emissions
import Signaling.V2.Filing

/-!
# What the rooms owe the authority

An admission or a removal that a worker must answer first is recorded in its
room. Each move settles a record with at most one answer, and only the start of
a transition makes a new record. So answers and records together never
outnumber the requests.
-/

namespace Signaling
namespace V2

open Std (ExtTreeMap ExtTreeSet)
open RoomTable

/-- The requests of the authority that a worker may have to answer. -/
inductive RequestKind
  | admission
  | removal
  deriving DecidableEq

section Debts

variable (authorityRequestId : Nat) (weight : RequestKind -> Nat)

/-- The weight of a record that names the request. -/
def share (kind : RequestKind) (recorded : Option Nat) : Nat :=
  if recorded = some authorityRequestId then weight kind else 0

/-- The weight of the answers that the records of a room still owe to the
request. -/
def Room.debt (room : Room) : Nat :=
  share authorityRequestId weight .admission
      (room.upgrade.map (·.authorityRequestId)) +
    share authorityRequestId weight .admission
      (room.pendingJoin.map (·.authorityRequestId)) +
    share authorityRequestId weight .removal
      (room.pendingLeave.bind (·.authorityRequestId))

/-- The weight of the records of all rooms. -/
def RoomTable.debt (table : RoomTable) : Nat :=
  tally table.rooms (Room.debt authorityRequestId weight)

/-- The weight of an action that answers the request. -/
def Action.pays : Action -> Nat
  | .admissionCompleted answered _ =>
      share authorityRequestId weight .admission (some answered)
  | .removalCompleted answered _ _ _ =>
      share authorityRequestId weight .removal (some answered)
  | _ => 0

/-- The weight of the answers to the request among some actions. -/
def paid (actions : List Action) : Nat :=
  (actions.map (Action.pays authorityRequestId weight)).sum

/-- The weight of the record that a move makes for the request. -/
def Move.borrows : Move -> Nat
  | .beginUpgrade requested _ _ | .beginJoin requested _ _ =>
      share authorityRequestId weight .admission (some requested)
  | .requestLeave requested _ _ =>
      share authorityRequestId weight .removal (some requested)
  | _ => 0

variable {authorityRequestId : Nat} {weight : RequestKind -> Nat}

@[simp] theorem share_none (kind : RequestKind) :
    share authorityRequestId weight kind none = 0 := by
  simp [share]

@[simp] theorem paid_nil : paid authorityRequestId weight [] = 0 := rfl

@[simp] theorem paid_append (first second : List Action) :
    paid authorityRequestId weight (first ++ second) =
      paid authorityRequestId weight first +
        paid authorityRequestId weight second := by
  simp [paid]

@[simp] theorem paid_cons (action : Action) (actions : List Action) :
    paid authorityRequestId weight (action :: actions) =
      action.pays authorityRequestId weight +
        paid authorityRequestId weight actions := by
  simp [paid]

theorem Action.Plain.pays
    {action : Action}
    (plain : action.Plain) :
    action.pays authorityRequestId weight = 0 := by
  cases action with
  | sfu | deliver => rfl
  | _ => exact plain.elim

theorem paid_of_plain
    {actions : List Action}
    (plain : ∀ action ∈ actions, action.Plain) :
    paid authorityRequestId weight actions = 0 := by
  rw [paid, List.sum_eq_zero]
  intro amount listed
  obtain ⟨action, present, rfl⟩ := List.mem_map.1 listed
  exact (plain action present).pays

/-- The answer to a leave is the one that its record owes. -/
@[simp] theorem paid_removalActions
    (leave : PendingLeave)
    (roomId : RoomId)
    (clientId : ClientId)
    (result : Except String Unit) :
    paid authorityRequestId weight
        (removalActions leave roomId clientId result) =
      share authorityRequestId weight .removal leave.authorityRequestId := by
  unfold removalActions
  split <;> simp_all [Action.pays]

@[simp] theorem paid_failureActions
    (table : RoomTable)
    (order : VisitOrder)
    (roomId : RoomId)
    (reason : String) :
    paid authorityRequestId weight (failureActions table order roomId reason) =
      0 := by
  unfold failureActions
  split <;> simp [Action.pays]

theorem RollsBack.paid
    {table : RoomTable}
    {roomId : RoomId}
    {room : Room}
    {upgrade : Upgrade}
    {reason : String}
    {actions : List Action}
    (rolls : RollsBack table roomId room upgrade reason actions) :
    V2.paid authorityRequestId weight actions ≤
      share authorityRequestId weight .admission
        (some upgrade.authorityRequestId) := by
  obtain ⟨leaves, answers, rfl, plain, answered, -⟩ := rolls
  rw [paid_append, paid_of_plain plain]
  rcases answered with rfl | rfl <;> simp [abortAnswer, Action.pays]

/-- A worker that expires answers the pending join and the pending leave. -/
theorem paid_expiryActions
    (order : VisitOrder)
    (roomId : RoomId)
    (room : Room) :
    paid authorityRequestId weight (expiryActions order roomId room) =
      share authorityRequestId weight .admission
          (room.pendingJoin.map (·.authorityRequestId)) +
        share authorityRequestId weight .removal
          (room.pendingLeave.bind (·.authorityRequestId)) := by
  unfold expiryActions
  cases room.pendingJoin <;> cases room.pendingLeave <;>
    simp [Action.pays]

/-! ## One room -/

variable (authorityRequestId weight) in
/-- What is stored for a room owes nothing when nothing is stored. -/
def owed (room : Option Room) : Nat :=
  room.elim 0 (Room.debt authorityRequestId weight)

@[simp] theorem owed_none : owed authorityRequestId weight none = 0 := rfl

@[simp] theorem owed_some (room : Room) :
    owed authorityRequestId weight (some room) =
      room.debt authorityRequestId weight := rfl

theorem owed_stored_le (room : Room) :
    owed authorityRequestId weight room.stored ≤
      room.debt authorityRequestId weight := by
  unfold Room.stored
  split <;> simp

/-- A move about an absent room answers nothing. -/
theorem Emits.paid_of_absent
    {table : RoomTable}
    {roomId : RoomId}
    {move : Move}
    {actions : List Action}
    (emits : Emits table move actions)
    (absent : table.rooms[roomId]? = none)
    (about : move.room? = some roomId) :
    paid authorityRequestId weight actions = 0 := by
  cases move with
  | dropWithLeave | requestLeave | retryLeave =>
      obtain ⟨_, _, _, _, -, -, -, -, action, rfl, plain, -⟩ := emits
      simp [plain.pays]
  | reportFailure =>
      obtain ⟨order, reason, ack, plain, rfl⟩ := emits
      simp [plain.pays]
  | refuseSync =>
      obtain ⟨order, rfl⟩ := emits
      simp
  | commitUpgrade | abortUpgrade | refuseJoin =>
      obtain ⟨_, _, _, found, -⟩ := emits
      obtain rfl := Option.some.inj about
      simp [absent] at found
  | refuseLeave =>
      obtain ⟨_, _, _, _, found, -⟩ := emits
      obtain rfl := Option.some.inj about
      simp [absent] at found
  | completeJoin | completeLeave =>
      obtain ⟨_, _, found, -⟩ := emits
      obtain rfl := Option.some.inj about
      simp [absent] at found
  | expireRoom =>
      obtain ⟨_, found, -⟩ := emits
      obtain rfl := Option.some.inj about
      simp [absent] at found
  | downgrade =>
      obtain ⟨_, _, _, _, _, found, -⟩ := emits
      obtain rfl := Option.some.inj about
      simp [absent] at found
  | _ => exact paid_of_plain emits

/-- A move that changes a room pays what it no longer owes. -/
theorem RoomMoved.settles
    {table : RoomTable}
    {roomId : RoomId}
    {move : Move}
    {before after : Option Room}
    {actions : List Action}
    (moved : RoomMoved roomId move before after)
    (found : table.rooms[roomId]? = before)
    (about : move.room? = some roomId)
    (emits : Emits table move actions) :
    paid authorityRequestId weight actions +
        owed authorityRequestId weight after ≤
      owed authorityRequestId weight before +
        move.borrows authorityRequestId weight := by
  cases moved with
  | kept elsewhere =>
      obtain rfl := elsewhere.resolve_left (absurd about)
      simp [emits.paid_of_absent found about]
  | create | joinDirect | register | dropWithGrace | queueMessage
  | clearDeadline | rearmGrace =>
      simp [paid_of_plain emits, Room.debt, Room.create, Room.insertMember,
        Room.modifyMember]
  | removeFailed =>
      rw [paid_of_plain emits, Nat.zero_add]
      exact (owed_stored_le _).trans (Nat.le_add_right _ _)
  | removeDirect | expireMembers =>
      rw [paid_of_plain emits, Nat.zero_add]
      refine (owed_stored_le _).trans ?_
      simp [Room.debt, Room.eraseMember]
  | beginUpgrade =>
      simp [paid_of_plain emits, Room.debt, Room.startUpgrade, Room.relive,
        Room.insertMember, Move.borrows]
      omega
  | beginJoin =>
      simp [paid_of_plain emits, Room.debt, Room.insertMember, Move.borrows]
      omega
  | advanceUpgrade requestId upgrading =>
      simp [paid_of_plain emits, Room.debt, Room.advanceUpgrade, upgrading]
  | dropWithLeave | retryLeave =>
      obtain ⟨_, _, _, _, -, -, -, -, action, rfl, plain, -⟩ := emits
      simp [plain.pays, Room.debt, Room.insertMember]
      omega
  | requestLeave =>
      obtain ⟨_, _, _, _, -, -, -, -, action, rfl, plain, -⟩ := emits
      simp [plain.pays, Room.debt, Move.borrows]
  | reportFailure =>
      obtain ⟨order, reason, ack, plain, rfl⟩ := emits
      simp [plain.pays, Room.debt]
  | refuseSync =>
      obtain ⟨order, rfl⟩ := emits
      simp [Room.debt]
  | commitUpgrade requestId upgrading =>
      obtain ⟨other, upgrade, order, there, running, rfl⟩ := emits
      obtain rfl := Option.some.inj (found.symm.trans there)
      obtain rfl := Option.some.inj (upgrading.symm.trans running)
      split <;> simp [commitActions, Action.pays, Room.debt, Room.commitSfu,
        Room.advanceUpgrade, upgrading] <;> omega
  | abortUpgrade requestId upgrading =>
      obtain ⟨other, upgrade, reason, there, running, rolls⟩ := emits
      obtain rfl := Option.some.inj (found.symm.trans there)
      obtain rfl := Option.some.inj (upgrading.symm.trans running)
      have few := @RollsBack.paid authorityRequestId weight _ _ _ _ _ _ rolls
      simp [Room.debt, Room.release, Room.rollBack, Room.eraseMember, upgrading]
      omega
  | completeJoin instanceId requestId joining =>
      obtain ⟨other, join, there, waiting, rfl⟩ := emits
      obtain rfl := Option.some.inj (found.symm.trans there)
      obtain rfl := Option.some.inj (joining.symm.trans waiting)
      split <;> simp [Action.pays, Room.debt, joining] <;> omega
  | refuseJoin requestId joining =>
      obtain ⟨other, join, reason, there, waiting, rfl⟩ := emits
      obtain rfl := Option.some.inj (found.symm.trans there)
      obtain rfl := Option.some.inj (joining.symm.trans waiting)
      simp [Action.pays, Room.debt, Room.eraseMember, joining]
      omega
  | completeLeave requestId deadline leaving =>
      obtain ⟨other, leave, there, waiting, rfl⟩ := emits
      obtain rfl := Option.some.inj (found.symm.trans there)
      obtain rfl := Option.some.inj (leaving.symm.trans waiting)
      refine (Nat.add_le_add_left (owed_stored_le _) _).trans ?_
      simp [Room.debt, Room.afterLeave, Room.eraseMember, leaving]
      omega
  | refuseLeave requestId leaving =>
      obtain ⟨other, leave, _, _, there, waiting, rfl⟩ := emits
      obtain rfl := Option.some.inj (found.symm.trans there)
      obtain rfl := Option.some.inj (leaving.symm.trans waiting)
      simp [Room.debt, leaving]
      omega
  | expireUpgrade instanceId upgrading running =>
      obtain ⟨other, there, ⟨-, upgrade, flying, rolls⟩ | ⟨settled, -⟩⟩ := emits
      · obtain rfl := Option.some.inj (found.symm.trans there)
        obtain rfl := Option.some.inj (running.symm.trans flying)
        have few := @RollsBack.paid authorityRequestId weight _ _ _ _ _ _ rolls
        simp [Room.debt, Room.release, Room.rollBack, Room.eraseMember, running]
        omega
      · obtain rfl := Option.some.inj (found.symm.trans there)
        exact absurd upgrading settled
  | expireRoom instanceId settled =>
      obtain ⟨other, there, ⟨upgrading, -⟩ | ⟨-, order, rfl⟩⟩ := emits
      · obtain rfl := Option.some.inj (found.symm.trans there)
        exact absurd upgrading settled
      · obtain rfl := Option.some.inj (found.symm.trans there)
        simp [paid_expiryActions, Room.debt, Room.fail]
        omega
  | downgrade =>
      obtain ⟨_, _, _, _, leaves, -, -, -, rfl, plain, -⟩ := emits
      simp [paid_of_plain plain, Action.pays, Room.debt, Room.commitP2p]

/-! ## Calls -/

/-- A move pays what the rooms no longer owe. -/
theorem Moved.settles
    {phase phase' : Option InstanceId}
    {table table' : RoomTable}
    {move : Move}
    {actions : List Action}
    (taken : Moved phase table move phase' table')
    (wellFormed : table.WellFormed)
    (emits : Emits table move actions) :
    paid authorityRequestId weight actions +
        table'.debt authorityRequestId weight ≤
      table.debt authorityRequestId weight +
        move.borrows authorityRequestId weight := by
  cases about : move.room? with
  | none =>
      have silent : paid authorityRequestId weight actions = 0 := by
        cases move <;> first
          | exact paid_of_plain emits
          | cases about
      have same : table'.debt authorityRequestId weight ≤
          table.debt authorityRequestId weight :=
        tally_le fun roomId => by
          rw [weightAt, (taken.room wellFormed roomId).elsewhere (by simp [about]),
            weightAt]
      omega
  | some roomId =>
      have changed := @tally_exchange _ _ _ _ _ table.rooms table'.rooms
        (Room.debt authorityRequestId weight) roomId fun otherId other =>
          ((taken.room wellFormed otherId).elsewhere (by
            simpa [about] using Ne.symm other)).symm
      have settled := @RoomMoved.settles authorityRequestId weight _ _ _ _ _ _
        (taken.room wellFormed roomId) rfl about emits
      simp only [weightAt] at changed
      simp only [owed] at settled
      simp only [RoomTable.debt]
      omega

variable (authorityRequestId weight) in
/-- The weight of the request that a call makes. -/
def Call.borrows (call : Call) : Nat :=
  match call.operation with
  | .admitClient requested _ _ _ _ =>
      share authorityRequestId weight .admission (some requested)
  | .remove requested _ _ _ =>
      share authorityRequestId weight .removal (some requested)
  | _ => 0

/-- A move makes a record only for the request of its call. -/
theorem Arises.borrows
    {before table : RoomTable}
    {call : Call}
    {move : Move}
    (arises : Arises before call table move) :
    move.borrows authorityRequestId weight ≤
      call.borrows authorityRequestId weight := by
  cases move with
  | beginUpgrade | beginJoin =>
      obtain ⟨-, now, token, asked⟩ := arises
      simp [Move.borrows, Call.borrows, asked]
  | requestLeave =>
      obtain ⟨-, -, token, asked⟩ := arises
      simp [Move.borrows, Call.borrows, asked]
  | _ => exact Nat.zero_le _

theorem Call.Sweeps.borrows
    {call : Call}
    (sweeps : call.Sweeps) :
    Call.borrows authorityRequestId weight call = 0 := by
  unfold Call.Sweeps at sweeps
  unfold Call.borrows
  split <;> simp_all

/-- A call that polls nothing appends what it emits to the queue. -/
theorem RoomTable.Consistent.appended
    {table : RoomTable}
    {call : Call}
    (consistent : table.Consistent)
    (appends : call.operation ≠ .pollAction) :
    (table.step call).actions = table.actions ++ table.emitted call := by
  obtain ⟨new, appended⟩ := consistent.step_invariant
    (fun _ middle => ∃ new : List Action,
      middle.actions = table.actions ++ new)
    (fun phase middle move phase' next taken arises shape before => by
      obtain ⟨earlier, appended⟩ := before
      obtain ⟨actions, emitted, -⟩ := taken.emits shape.wellFormed (by
        rintro rfl
        exact appends arises.2)
      exact ⟨earlier ++ actions, by rw [emitted, appended, List.append_assoc]⟩)
    ⟨[], (List.append_nil _).symm⟩
  rw [emitted_of_append appends appended, appended]

/-- A call pays what the rooms no longer owe, but for the request that it makes.
-/
theorem RoomTable.Consistent.settles
    {table : RoomTable}
    {call : Call}
    (consistent : table.Consistent)
    (appends : call.operation ≠ .pollAction) :
    paid authorityRequestId weight (table.emitted call) +
        (table.step call).debt authorityRequestId weight ≤
      table.debt authorityRequestId weight +
        call.borrows authorityRequestId weight := by
  by_cases sweeps : call.Sweeps
  · rw [sweeps.borrows, Nat.add_zero]
    refine consistent.emitted_invariant (fun _ middle actions =>
      paid authorityRequestId weight actions +
        middle.debt authorityRequestId weight ≤
          table.debt authorityRequestId weight) appends
      (fun phase middle earlier move phase' next actions taken arises sound emits
        kept => ?_) (by simp)
    have settled := @Moved.settles authorityRequestId weight _ _ _ _ _ _ taken
      sound.wellFormed emits
    have borrowed := @Arises.borrows authorityRequestId weight _ _ _ _ arises
    rw [sweeps.borrows] at borrowed
    rw [paid_append]
    omega
  · rcases step_direct table call sweeps with same | ⟨move, taken, arises⟩
    · rw [@emitted_of_append table call [] appends (by rw [same, List.append_nil]),
        same]
      simp
    · obtain ⟨actions, appended, emits⟩ := taken.emits consistent.wellFormed
        (by
          rintro rfl
          exact appends arises.2)
      rw [emitted_of_append appends appended]
      exact (taken.settles consistent.wellFormed emits).trans
        (Nat.add_le_add_left arises.borrows _)

/-- The call's request is left to a worker to answer. -/
def Call.Waits
    (call : Call)
    (table : RoomTable) : Prop :=
  match call.operation with
  | .admitClient authorityRequestId now roomId clientId token =>
      (table.admitClient authorityRequestId now roomId clientId token).1 =
        .ok .pending
  | .remove authorityRequestId roomId clientId token =>
      (table.remove authorityRequestId roomId clientId token).1 = .ok .pending
  | _ => False

/-- A move makes a record only for a request that is left to a worker. -/
theorem Moved.borrows
    {table table' : RoomTable}
    {call : Call}
    {move : Move}
    (taken : Moved none table move none table')
    (arises : Arises table call table move)
    (answered : ¬call.Waits table) :
    move.borrows authorityRequestId weight = 0 := by
  cases taken with
  | beginUpgrade requested someTime someToken found fresh direct full selected =>
      rename_i roomId room clientId instanceId
      obtain ⟨-, now, token, asked⟩ := arises
      obtain ⟨_, _, _, _, _, _, -, -, -, begun⟩ := beginUpgrade_eq requested now
        token roomId fresh full selected
      refine absurd ?_ answered
      simp [Call.Waits, asked, admitClient, found, fresh, direct, full, selected,
        begun]
  | beginJoin requested _ _ found fresh forwarded noJoin noLeave assigned
      connected =>
      obtain ⟨-, now, token, asked⟩ := arises
      refine absurd ?_ answered
      simp [Call.Waits, asked, admitClient, found, fresh, forwarded, noJoin,
        noLeave, admitToSfu, assigned, connected]
  | requestLeave requested found present forwarded noJoin noLeave assigned
      connected =>
      obtain ⟨-, ⟨_, shown, other, asked, there, authentic⟩, token, same⟩ := arises
      simp only [member?, found, Option.bind_some, present,
        Option.some.injEq] at there
      subst there
      refine absurd ?_ answered
      simp [Call.Waits, asked, RoomTable.remove, found, present, authentic,
        forwarded, noJoin, noLeave, assigned, connected]
  | _ => rfl

/-- A call whose request is answered at once leaves no record of it. -/
theorem RoomTable.Consistent.settles_answered
    {table : RoomTable}
    {call : Call}
    (consistent : table.Consistent)
    (appends : call.operation ≠ .pollAction)
    (answered : ¬call.Waits table) :
    paid authorityRequestId weight (table.emitted call) +
        (table.step call).debt authorityRequestId weight ≤
      table.debt authorityRequestId weight := by
  by_cases sweeps : call.Sweeps
  · have settled := @RoomTable.Consistent.settles authorityRequestId weight _ call
      consistent appends
    rwa [sweeps.borrows, Nat.add_zero] at settled
  · rcases step_direct table call sweeps with same | ⟨move, taken, arises⟩
    · rw [@emitted_of_append table call [] appends (by rw [same, List.append_nil]),
        same]
      simp
    · obtain ⟨actions, appended, emits⟩ := taken.emits consistent.wellFormed
        (by
          rintro rfl
          exact appends arises.2)
      rw [emitted_of_append appends appended]
      have settled := @Moved.settles authorityRequestId weight _ _ _ _ _ _ taken
        consistent.wellFormed emits
      rwa [taken.borrows arises answered, Nat.add_zero] at settled

end Debts

end V2
end Signaling
