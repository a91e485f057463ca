import Signaling.V2.Order

/-!
# What synchronizations hold back

A synchronization holds back the commands that its worker still owes for the
room. Here: which commands a replay holds, what other calls leave of it, and
that the synchronizations of one registration hold back a command once.
-/

namespace Signaling
namespace V2

open Std (ExtTreeMap ExtTreeSet)
open RoomTable

/-- What was handed out under a number. -/
def handedAs
    (requestId : Nat)
    (sent : List (Sfu.ConnectionId × Sfu.Command)) :
    List (Sfu.ConnectionId × Sfu.Command) :=
  sent.filter fun entry => entry.2.requestId = requestId

@[simp] theorem handedAs_append
    (requestId : Nat)
    (first second : List (Sfu.ConnectionId × Sfu.Command)) :
    handedAs requestId (first ++ second) =
      handedAs requestId first ++ handedAs requestId second :=
  List.filter_append ..

theorem handedAs_of_fresh
    {requestId bound : Nat}
    {sent : List (Sfu.ConnectionId × Sfu.Command)}
    (older : requestId < bound)
    (fresh : ∀ entry ∈ sent, bound ≤ entry.2.requestId) :
    handedAs requestId sent = [] := by
  refine List.filter_eq_nil_iff.2 fun entry listed same => ?_
  have above := fresh entry listed
  simp only [decide_eq_true_eq] at same
  rw [same] at above
  exact absurd above (Nat.not_le.2 older)

theorem handedAs_replay
    (requestId : Nat)
    (connectionId : Sfu.ConnectionId)
    (replay : List Sfu.Command) :
    handedAs requestId (replay.map (connectionId, ·)) =
      (replay.filter fun command => command.requestId = requestId).map
        (connectionId, ·) := by
  simp [handedAs, List.filter_map, Function.comp_def]

/-- A synchronization holds back the command with the number. -/
def PendingCommand.Holds
    (pending : PendingCommand)
    (requestId : Nat) : Prop :=
  ∃ instanceId roomId assignmentEpoch replay,
    pending = .syncRoom instanceId roomId assignmentEpoch replay ∧
      ∃ command ∈ replay, command.requestId = requestId

theorem PendingCommand.Holds.isSync
    {pending : PendingCommand}
    {requestId : Nat}
    (holds : pending.Holds requestId) :
    pending.isSync = true := by
  obtain ⟨_, _, _, _, rfl, -⟩ := holds
  rfl

namespace RoomTable

/-- The worker has not answered the command, which is no synchronization. -/
structure Owes
    (table : RoomTable)
    (instanceId : InstanceId)
    (command : Sfu.Command) : Prop where
  text : table.unacknowledgedCommands[command.requestId]? = some command
  worker : table.commandWorkers[command.requestId]? = some instanceId
  original : commandIsSync command.command = false

/-- A registering worker is asked to synchronize the room. -/
def Resumes
    (table : RoomTable)
    (instanceId : InstanceId)
    (roomId : RoomId) : Prop :=
  table.Lists instanceId roomId ∧ table.rooms[roomId]?.isSome

/-- No synchronization holds back the command with the number. -/
def Free (table : RoomTable) (requestId : Nat) : Prop :=
  ∀ (syncId : Nat) pending, table.pendingCommands[syncId]? = some pending ->
    ¬pending.Holds requestId

/-- One synchronization of the worker holds back the command, once. -/
structure HeldBy
    (table : RoomTable)
    (instanceId : InstanceId)
    (command : Sfu.Command)
    (syncId : Nat) : Prop where
  waits : ∃ roomId assignmentEpoch replay,
    table.pendingCommands[syncId]? =
      some (.syncRoom instanceId roomId assignmentEpoch replay) ∧
    (replay.filter fun held => held.requestId = command.requestId) = [command]
  alone : ∀ (otherId : Nat) pending,
    table.pendingCommands[otherId]? = some pending ->
    pending.Holds command.requestId -> otherId = syncId

end RoomTable

/-! ## The replay of one command -/

/-- A list without repetitions in which one entry counts is mapped to what that
entry is mapped to. -/
theorem filterMap_eq_singleton
    {α β : Type}
    {entries : List α}
    {pick : α -> Option β}
    {entry : α}
    {value : β}
    (nodup : entries.Nodup)
    (listed : entry ∈ entries)
    (picked : pick entry = some value)
    (others : ∀ other ∈ entries, other ≠ entry -> pick other = none) :
    entries.filterMap pick = [value] := by
  obtain ⟨before, after, rfl⟩ := List.append_of_mem listed
  obtain ⟨-, tail, apart⟩ := List.nodup_append.1 nodup
  have first : before.filterMap pick = [] :=
    List.filterMap_eq_nil_iff.2 fun other inside => others other (by simp [inside])
      (apart other inside entry List.mem_cons_self)
  have last : after.filterMap pick = [] :=
    List.filterMap_eq_nil_iff.2 fun other inside => others other (by simp [inside])
      (by
        rintro rfl
        exact (List.nodup_cons.1 tail).1 inside)
  rw [List.filterMap_append, first, List.filterMap_cons_some picked, last]
  rfl

/-- The replay for the room of an unanswered command holds it once, and the
replay for another room does not hold it. -/
theorem Filed.replayFor_owed
    {table : RoomTable}
    {instanceId : InstanceId}
    {command : Sfu.Command}
    (filed : Filed table)
    (owes : table.Owes instanceId command)
    (order : VisitOrder)
    (roomId : RoomId) :
    ((table.replayFor order instanceId roomId).filter fun held =>
      held.requestId = command.requestId) =
        if commandRoomId command = roomId then [command] else [] := by
  obtain ⟨-, -, pending, outstanding, agrees⟩ :=
    filed.texts command.requestId command owes.text
  rw [owes.original] at agrees
  split
  · rename_i about
    simp only [RoomTable.replayFor, List.filter_filterMap, List.filterMap_filter]
    have entries := ExtTreeMap.mem_toList_iff_getElem?_eq_some.2 owes.worker
    have nodup : table.commandWorkers.toList.Nodup :=
      (ExtTreeMap.distinct_keys_toList (t := table.commandWorkers)).imp
        fun apart same => apart (by rw [same]; exact Std.ReflCmp.compare_self)
    refine filterMap_eq_singleton (order.nodup_visit _ nodup)
      ((order.mem_visit _ _ _).2 entries) ?_ ?_
    · simp [outstanding, agrees, owes.text, about]
    · rintro ⟨otherId, worker⟩ listed other
      simp only [Option.ite_none_right_eq_some, Option.filter_eq_none_iff]
      rintro held ⟨mine, text⟩ same
      have text := (Option.filter_eq_some_iff.1 text).1
      have named := (filed.texts otherId held text).1
      simp only [Bool.and_eq_true, decide_eq_true_eq] at mine same
      obtain ⟨rfl, -⟩ := mine
      exact other (by rw [← named, same])
  · rename_i elsewhere
    refine List.filter_eq_nil_iff.2 fun held listed same => elsewhere ?_
    have about := (filed.replayFor order instanceId roomId held listed).2.1
    simp only [RoomTable.replayFor, List.mem_filterMap, Option.filter_eq_some_iff]
      at listed
    obtain ⟨⟨otherId, worker⟩, -, text, -⟩ := listed
    have named := (filed.texts otherId held text).1
    simp only [decide_eq_true_eq] at same
    rw [← named, same, owes.text] at text
    rw [Option.some.inj text, about]

/-- A replay holds what the worker owes for the room. -/
theorem Filed.mem_replayFor
    {table : RoomTable}
    (filed : Filed table)
    (order : VisitOrder)
    (instanceId : InstanceId)
    (roomId : RoomId)
    (command : Sfu.Command) :
    command ∈ table.replayFor order instanceId roomId ↔
      table.Owes instanceId command ∧ commandRoomId command = roomId := by
  constructor
  · intro listed
    obtain ⟨-, about, original, -⟩ :=
      filed.replayFor order instanceId roomId command listed
    simp only [RoomTable.replayFor, List.mem_filterMap, List.mem_filter,
      Bool.and_eq_true, Option.filter_eq_some_iff, decide_eq_true_eq,
      HashOrder.mem_visit] at listed
    obtain ⟨⟨requestId, worker⟩, ⟨recorded, rfl, -⟩, text, -⟩ := listed
    have recorded := ExtTreeMap.mem_toList_iff_getElem?_eq_some.1 recorded
    have named := (filed.texts requestId command text).1
    subst named
    exact ⟨⟨text, recorded, original⟩, about⟩
  · rintro ⟨owes, about⟩
    have held := filed.replayFor_owed owes order roomId
    rw [if_pos about] at held
    exact List.mem_of_mem_filter (held ▸ List.mem_singleton_self command)

/-! ## What other commands leave alone -/

/-- Whatever holds back the command after a change held it back before, and
records with older numbers do not change. -/
structure Carries
    (requestId : Nat)
    (table after : RoomTable) : Prop where
  held : ∀ (syncId : Nat) pending,
    after.pendingCommands[syncId]? = some pending -> pending.Holds requestId ->
    table.pendingCommands[syncId]? = some pending
  older : ∀ (otherId : Nat) pending, otherId < table.nextSfuRequestId ->
    after.pendingCommands[otherId]? = some pending ->
    table.pendingCommands[otherId]? = some pending
  owners : ∀ owner, after.commandWorkers[requestId]? = some owner ->
    table.commandWorkers[requestId]? = some owner
  next : table.nextSfuRequestId ≤ after.nextSfuRequestId

namespace Carries

variable
  {requestId : Nat}
  {table middle after : RoomTable}

theorem refl : Carries requestId table table where
  held _ _ outstanding _ := outstanding
  older _ _ _ outstanding := outstanding
  owners _ owner := owner
  next := Nat.le_refl _

theorem trans
    (first : Carries requestId table middle)
    (second : Carries requestId middle after) :
    Carries requestId table after where
  held syncId pending outstanding holds :=
    first.held syncId pending (second.held syncId pending outstanding holds) holds
  older otherId pending older outstanding :=
    first.older otherId pending older (second.older otherId pending
      (lt_of_lt_of_le older first.next) outstanding)
  owners owner named := first.owners owner (second.owners owner named)
  next := first.next.trans second.next

theorem of_same
    (same : ∀ otherId, SameCommand table after otherId)
    (next : after.nextSfuRequestId = table.nextSfuRequestId) :
    Carries requestId table after where
  held syncId pending outstanding _ := by rwa [(same syncId).1] at outstanding
  older otherId pending _ outstanding := by rwa [(same otherId).1] at outstanding
  owners owner named := by rwa [(same requestId).2.1] at named
  next := next.ge

theorem retire
    (answered : Nat) :
    Carries requestId table (table.retireCommand answered) := by
  have kept {otherId : Nat} {pending : PendingCommand}
      (outstanding : (table.retireCommand answered).pendingCommands[otherId]? =
        some pending) :
      table.pendingCommands[otherId]? = some pending := by
    simp only [retireCommand_pendingCommands, ExtTreeMap.getElem?_erase]
      at outstanding
    grind
  exact
    { held := fun _ _ outstanding _ => kept outstanding
      older := fun _ _ _ outstanding => kept outstanding
      owners := fun owner named => by
        simp only [retireCommand_commandWorkers, ExtTreeMap.getElem?_erase]
          at named
        grind
      next := Nat.le_refl _ }

theorem retireAll
    (requestIds : List Nat) :
    Carries requestId table (table.retireAll requestIds) := by
  induction requestIds generalizing table with
  | nil => exact refl
  | cons answered requestIds inductionHypothesis =>
      exact (retire answered).trans inductionHypothesis

theorem issue
    {instanceId : InstanceId}
    {connectionId : Sfu.ConnectionId}
    {command : Sfu.CommandKind}
    {pending : PendingCommand}
    (bounded : table.nextSfuRequestId ≤ u64Max)
    (older : requestId < table.nextSfuRequestId)
    (elsewhere : ¬pending.Holds requestId) :
    Carries requestId table
      (table.issueCommand instanceId connectionId command pending) where
  held syncId record outstanding holds := by
    simp only [issueCommand_pendingCommands, ExtTreeMap.getElem?_insert]
      at outstanding
    split at outstanding
    · cases outstanding
      exact absurd holds elsewhere
    · exact outstanding
  older otherId record before outstanding := by
    simp only [issueCommand_pendingCommands, ExtTreeMap.getElem?_insert,
      compare_eq_iff_eq] at outstanding
    rwa [if_neg before.ne'] at outstanding
  owners owner named := by
    simp only [issueCommand_commandWorkers, ExtTreeMap.getElem?_insert,
      compare_eq_iff_eq] at named
    rwa [if_neg older.ne'] at named
  next := (issueCommand_next_le _ _ _ _ _ bounded).1

theorem ledger
    {issues : InstanceId -> Sfu.Command -> PendingCommand -> Prop}
    {retires : Nat -> Prop}
    (steps : Ledger issues retires (fun _ _ => False) table after)
    (bounded : table.nextSfuRequestId ≤ u64Max)
    (older : requestId < table.nextSfuRequestId)
    (original : ∀ instanceId command pending,
      issues instanceId command pending -> pending.isSync = false) :
    Carries requestId table after := by
  induction steps with
  | refl => exact refl
  | tail earlier step inductionHypothesis =>
      have grown := Ledger.next_le earlier bounded
      refine inductionHypothesis.trans ?_
      cases step with
      | silent new same next connections queued nothing =>
          exact of_same same next
      | connect capacity allowed => exact allowed.elim
      | issue connected agrees allowed =>
          refine issue grown.2 (lt_of_lt_of_le older grown.1) fun holds => ?_
          have sync := holds.isSync
          rw [original _ _ _ allowed] at sync
          cases sync
      | retire allowed => exact retire _

theorem free
    (carries : Carries requestId table after)
    (free : table.Free requestId) :
    after.Free requestId :=
  fun syncId pending outstanding holds =>
    free syncId pending (carries.held syncId pending outstanding holds) holds

end Carries

namespace RoomTable

variable {table : RoomTable}

theorem Owes.issueCommand_iff
    {instanceId otherId : InstanceId}
    {connectionId : Sfu.ConnectionId}
    {issued : Sfu.CommandKind}
    {pending : PendingCommand}
    {command : Sfu.Command}
    (older : command.requestId < table.nextSfuRequestId) :
    (table.issueCommand otherId connectionId issued pending).Owes instanceId
      command ↔ table.Owes instanceId command := by
  have other : ¬table.nextSfuRequestId = command.requestId := older.ne'
  constructor <;> rintro ⟨text, worker, original⟩ <;>
    refine ⟨?_, ?_, original⟩ <;>
    simp_all only [issueCommand_unacknowledgedCommands,
      issueCommand_commandWorkers, ExtTreeMap.getElem?_insert,
      compare_eq_iff_eq, if_false]

end RoomTable

/-- Synchronizations of other rooms and workers do not hold back the command. -/
theorem syncRooms_carries
    {order : VisitOrder}
    {instanceId : InstanceId}
    {connectionId : Sfu.ConnectionId}
    {table : RoomTable}
    {requestId : Nat}
    (roomIds : List RoomId)
    (filed : Filed table)
    (bounded : table.nextSfuRequestId ≤ u64Max)
    (unspent : (roomIds.foldl (syncAssignedRoom order instanceId connectionId)
      table).nextSfuRequestId < u64Max)
    (older : requestId < table.nextSfuRequestId)
    (elsewhere : ∀ command : Sfu.Command, command.requestId = requestId ->
      table.Owes instanceId command -> commandRoomId command ∈ roomIds ->
      table.rooms[commandRoomId command]? = none) :
    Carries requestId table (roomIds.foldl
      (syncAssignedRoom order instanceId connectionId) table) := by
  induction roomIds generalizing table with
  | nil => exact .refl
  | cons roomId roomIds inductionHypothesis =>
      rw [List.foldl_cons] at unspent ⊢
      cases found : table.rooms[roomId]? with
      | none =>
          simp only [syncAssignedRoom, found] at unspent ⊢
          exact inductionHypothesis filed bounded unspent older
            fun command same owes listed =>
              elsewhere command same owes (List.mem_cons_of_mem _ listed)
      | some room =>
          obtain ⟨members, asked⟩ := Filed.syncAssignedRoom_eq order instanceId
            connectionId found
          rw [asked] at unspent ⊢
          have grown := table.issueCommand_next_le instanceId connectionId
            (.syncRoom ⟨roomId, room.assignmentEpoch, members⟩)
            (.syncRoom instanceId roomId room.assignmentEpoch
              (table.replayFor order instanceId roomId)) bounded
          have issued := lt_of_le_of_lt
            (Filed.syncRooms_next_le order instanceId connectionId roomIds
              grown.2).1 unspent
          have apart : ¬(PendingCommand.syncRoom instanceId roomId
              room.assignmentEpoch (table.replayFor order instanceId
                roomId)).Holds requestId := by
            rintro ⟨_, _, _, _, same, command, listed, number⟩
            cases same
            obtain ⟨owes, rfl⟩ :=
              (filed.mem_replayFor order instanceId roomId command).1 listed
            rw [elsewhere command number owes List.mem_cons_self] at found
            cases found
          refine (Carries.issue bounded older apart).trans (inductionHypothesis
            (filed.extend rfl issued ?_) grown.2 unspent
            (lt_of_lt_of_le older grown.1) fun command number owes listed => ?_)
          · intro expected otherRoom assignmentEpoch replay same
            cases same
            exact filed.replayFor order instanceId roomId
          · refine elsewhere command number ?_ (List.mem_cons_of_mem _ listed)
            exact (Owes.issueCommand_iff (by rw [number]; exact older)).1 owes

/-- The synchronization of a present room holds back what the worker owes for
it, once. -/
theorem syncRooms_held
    {order : VisitOrder}
    {instanceId : InstanceId}
    {connectionId : Sfu.ConnectionId}
    {table : RoomTable}
    {command : Sfu.Command}
    (roomIds : List RoomId)
    (filed : Filed table)
    (bounded : table.nextSfuRequestId ≤ u64Max)
    (unspent : (roomIds.foldl (syncAssignedRoom order instanceId connectionId)
      table).nextSfuRequestId < u64Max)
    (nodup : roomIds.Nodup)
    (owes : table.Owes instanceId command)
    (listed : commandRoomId command ∈ roomIds)
    (present : (table.rooms[commandRoomId command]?).isSome)
    (free : table.Free command.requestId) :
    ∃ syncId, (roomIds.foldl (syncAssignedRoom order instanceId connectionId)
        table).HeldBy instanceId command syncId ∧
      syncId < (roomIds.foldl (syncAssignedRoom order instanceId connectionId)
        table).nextSfuRequestId := by
  obtain ⟨before, after, split⟩ := List.append_of_mem listed
  rw [split] at unspent nodup ⊢
  rw [List.foldl_append, List.foldl_cons] at unspent ⊢
  obtain ⟨-, tail, apart⟩ := List.nodup_append.1 nodup
  have older := (filed.texts command.requestId command owes.text).2.1
  -- Only one command has the number, so only one room is concerned.
  have alone {other : RoomTable}
      (same : SameCommand table other command.requestId)
      {held : Sfu.Command} (number : held.requestId = command.requestId)
      (owed : other.Owes instanceId held) :
      held = command := by
    have text := owed.text
    rw [number, same.2.2, owes.text] at text
    exact (Option.some.inj text).symm
  -- The rooms before its room.
  obtain ⟨middle, reached⟩ : ∃ middle, before.foldl
    (syncAssignedRoom order instanceId connectionId) table = middle := ⟨_, rfl⟩
  have middleRooms : middle.rooms = table.rooms := by
    rw [← reached]
    exact (Filed.syncRooms_kept before).1
  have middleNext : table.nextSfuRequestId ≤ middle.nextSfuRequestId ∧
      middle.nextSfuRequestId ≤ u64Max := by
    rw [← reached]
    exact Filed.syncRooms_next_le order instanceId connectionId before bounded
  rw [reached] at unspent ⊢
  obtain ⟨room, found⟩ := Option.isSome_iff_exists.1 present
  obtain ⟨members, asked⟩ := Filed.syncAssignedRoom_eq order instanceId
    connectionId (show middle.rooms[commandRoomId command]? = some room by
      rw [middleRooms, found])
  rw [asked] at unspent ⊢
  have grown := middle.issueCommand_next_le instanceId connectionId
    (.syncRoom ⟨commandRoomId command, room.assignmentEpoch, members⟩)
    (.syncRoom instanceId (commandRoomId command) room.assignmentEpoch
      (middle.replayFor order instanceId (commandRoomId command))) middleNext.2
  have later := Filed.syncRooms_next_le order instanceId connectionId after
    grown.2
  have issued := lt_of_le_of_lt later.1 unspent
  have middleUnspent := lt_of_le_of_lt grown.1 issued
  have carries := syncRooms_carries before filed bounded
    (by rw [reached]; exact middleUnspent) older (fun held number owed inside => by
      rw [alone ⟨rfl, rfl, rfl⟩ number owed] at inside
      exact absurd rfl (apart _ inside _ List.mem_cons_self))
  have middleFiled := filed.syncRooms before bounded
    (by rw [reached]; exact middleUnspent)
  have sameMiddle : SameCommand table (before.foldl
      (syncAssignedRoom order instanceId connectionId) table)
        command.requestId :=
    Filed.syncRooms_same before bounded older
  rw [reached] at carries middleFiled sameMiddle
  have middleOwes : middle.Owes instanceId command :=
    ⟨sameMiddle.2.2.trans owes.text, sameMiddle.2.1.trans owes.worker,
      owes.original⟩
  have middleOlder := lt_of_lt_of_le older middleNext.1
  have replay := middleFiled.replayFor_owed middleOwes order
    (commandRoomId command)
  rw [if_pos rfl] at replay
  -- The rooms after its room.
  have lastCarries := syncRooms_carries after
    (middleFiled.extend rfl issued (by
      intro expected otherRoom assignmentEpoch replay same
      cases same
      exact middleFiled.replayFor order instanceId _)) grown.2 unspent
    (lt_of_lt_of_le middleOlder grown.1) (fun held number owed inside => by
      have owed := (Owes.issueCommand_iff (by rw [number]; exact middleOlder)).1
        owed
      rw [alone sameMiddle number owed] at inside
      exact absurd inside (List.nodup_cons.1 tail).1)
  have own : middle.nextSfuRequestId < (middle.issueCommand instanceId
      connectionId
      (.syncRoom ⟨commandRoomId command, room.assignmentEpoch, members⟩)
      (.syncRoom instanceId (commandRoomId command) room.assignmentEpoch
        (middle.replayFor order instanceId
          (commandRoomId command)))).nextSfuRequestId := by
    rw [Filed.issued_next issued]
    exact Nat.lt_succ_self _
  refine ⟨middle.nextSfuRequestId, ⟨⟨commandRoomId command,
    room.assignmentEpoch, _, ?_, replay⟩, fun otherId pending outstanding
      holds => ?_⟩, lt_of_lt_of_le own later.1⟩
  · rw [(Filed.syncRooms_same after grown.2 own).1]
    simp
  · have kept := lastCarries.held otherId pending outstanding holds
    simp only [issueCommand_pendingCommands, ExtTreeMap.getElem?_insert,
      compare_eq_iff_eq] at kept
    split at kept
    · rename_i same
      exact same.symm
    · exact absurd holds (carries.free free otherId pending kept)

end V2
end Signaling
