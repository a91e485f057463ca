import Signaling.V2.Handing

/-!
# The order of commands on a connection

The joins, leaves and signals of one room reach a connection in the order of
their numbers as long as no synchronization releases its replay out of order,
and no command overtakes a replay that still waits.
-/

namespace Signaling
namespace V2

open Std (ExtTreeMap ExtTreeSet)
open RoomTable

/-- The numbers of the joins, leaves and signals of a room that a connection
was handed, oldest first. -/
def line
    (connectionId : Sfu.ConnectionId)
    (roomId : RoomId)
    (sent : List (Sfu.ConnectionId × Sfu.Command)) : List Nat :=
  (sent.filter fun entry => entry.1 = connectionId
    && !commandIsSync entry.2.command
    && commandRoomId entry.2 = roomId).map (·.2.requestId)

@[simp] theorem line_append
    (connectionId : Sfu.ConnectionId)
    (roomId : RoomId)
    (first second : List (Sfu.ConnectionId × Sfu.Command)) :
    line connectionId roomId (first ++ second) =
      line connectionId roomId first ++ line connectionId roomId second := by
  simp [line]

theorem mem_line
    {connectionId : Sfu.ConnectionId}
    {roomId : RoomId}
    {sent : List (Sfu.ConnectionId × Sfu.Command)}
    {requestId : Nat} :
    requestId ∈ line connectionId roomId sent ↔
      ∃ command, (connectionId, command) ∈ sent ∧
        commandIsSync command.command = false ∧
        commandRoomId command = roomId ∧ command.requestId = requestId := by
  simp only [line, List.mem_map, List.mem_filter, Bool.and_eq_true,
    decide_eq_true_eq, Bool.not_eq_true']
  constructor
  · rintro ⟨⟨other, command⟩, ⟨listed, ⟨rfl, original⟩, about⟩, rfl⟩
    exact ⟨command, listed, original, about, rfl⟩
  · rintro ⟨command, listed, original, about, rfl⟩
    exact ⟨(connectionId, command), ⟨listed, ⟨rfl, original⟩, about⟩, rfl⟩

theorem line_of_unused
    {connectionId : Sfu.ConnectionId}
    {sent : List (Sfu.ConnectionId × Sfu.Command)}
    (unused : ∀ entry ∈ sent, entry.1 ≠ connectionId)
    (roomId : RoomId) :
    line connectionId roomId sent = [] := by
  refine List.eq_nil_iff_forall_not_mem.2 fun requestId listed => ?_
  obtain ⟨command, inside, -⟩ := mem_line.1 listed
  exact unused _ inside rfl

theorem line_of_syncs
    {sent : List (Sfu.ConnectionId × Sfu.Command)}
    (syncs : ∀ entry ∈ sent, commandIsSync entry.2.command = true)
    (connectionId : Sfu.ConnectionId)
    (roomId : RoomId) :
    line connectionId roomId sent = [] := by
  refine List.eq_nil_iff_forall_not_mem.2 fun requestId listed => ?_
  obtain ⟨command, inside, original, -⟩ := mem_line.1 listed
  have sync := syncs _ inside
  rw [original] at sync
  cases sync

/-- A replay shows up as a whole on the line of its connection and room. -/
theorem line_replay
    {roomId : RoomId}
    {replay : List Sfu.Command}
    (about : ∀ command ∈ replay, commandRoomId command = roomId ∧
      commandIsSync command.command = false)
    (connectionId other : Sfu.ConnectionId)
    (otherRoom : RoomId) :
    line other otherRoom (replay.map (connectionId, ·)) =
      if connectionId = other ∧ roomId = otherRoom then
        replay.map (·.requestId)
      else [] := by
  induction replay with
  | nil => simp [line]
  | cons command replay inductionHypothesis =>
      have tail := inductionHypothesis fun later listed =>
        about later (List.mem_cons_of_mem _ listed)
      obtain ⟨room, original⟩ := about command List.mem_cons_self
      rw [List.map_cons, ← List.singleton_append, line_append, tail]
      simp only [line, List.filter_cons, List.filter_nil, original, room]
      split <;> split <;> simp_all

/-- The commands that were handed out in a history, oldest first. -/
def sentIn : History -> List (Sfu.ConnectionId × Sfu.Command)
  | [] => []
  | (table, call) :: older => sentIn older ++ handed (table.emitted call)

/-- The connections on which workers registered, newest first. -/
def sessions (history : History) : List Sfu.ConnectionId :=
  history.filterMap fun event => event.2.session?

/-- A synchronization of the room by the worker holds back commands. -/
def PendingCommand.Withholds
    (pending : PendingCommand)
    (instanceId : InstanceId)
    (roomId : RoomId) : Prop :=
  ∃ assignmentEpoch replay,
    pending = .syncRoom instanceId roomId assignmentEpoch replay ∧ replay ≠ []

theorem PendingCommand.Withholds.isSync
    {pending : PendingCommand}
    {instanceId : InstanceId}
    {roomId : RoomId}
    (withholds : pending.Withholds instanceId roomId) :
    pending.isSync = true := by
  obtain ⟨_, _, rfl, -⟩ := withholds
  rfl

/-- A call that keeps commands in order. -/
structure Orderly
    (table : RoomTable)
    (call : Call) : Prop where
  /-- A replay that the call releases is recorded in ascending order. -/
  ascending : ∀ instanceId requestId roomId assignmentEpoch replay,
    call.Accepts table instanceId requestId
      (.syncRoom instanceId roomId assignmentEpoch replay) ->
    (replay.map (·.requestId)).Pairwise (· < ·)
  /-- A worker is handed no new command of a room while commands of the room are
  held back for it. -/
  waits : ∀ instanceId roomId, call.Hands table instanceId roomId ->
    ∀ (requestId : Nat) pending,
      table.pendingCommands[requestId]? = some pending ->
      ¬pending.Withholds instanceId roomId

/-- What holds of the commands sent so far, given the connections used so far:
they are in order, their numbers are used up, and what is still held back goes
to a connection that had no command for the room yet, by one synchronization. -/
structure InOrder
    (used : List Sfu.ConnectionId)
    (sent : List (Sfu.ConnectionId × Sfu.Command))
    (table : RoomTable) : Prop where
  ascending : ∀ connectionId roomId,
    (line connectionId roomId sent).Pairwise (· < ·)
  numbered : ∀ entry ∈ sent, entry.2.requestId < table.nextSfuRequestId
  opened : ∀ entry ∈ sent, entry.1 ∈ used
  sessions : ∀ instanceId connectionId,
    table.connection? instanceId = some connectionId -> connectionId ∈ used
  distinct : ∀ instanceId otherId connectionId,
    table.connection? instanceId = some connectionId ->
    table.connection? otherId = some connectionId -> instanceId = otherId
  waiting : ∀ (requestId : Nat) pending instanceId roomId connectionId,
    table.pendingCommands[requestId]? = some pending ->
    pending.Withholds instanceId roomId ->
    table.connection? instanceId = some connectionId ->
    line connectionId roomId sent = []
  single : ∀ (requestId otherId : Nat) pending other instanceId roomId,
    table.pendingCommands[requestId]? = some pending ->
    table.pendingCommands[otherId]? = some other ->
    pending.Withholds instanceId roomId -> other.Withholds instanceId roomId ->
    requestId = otherId

namespace InOrder

variable
  {used : List Sfu.ConnectionId}
  {sent : List (Sfu.ConnectionId × Sfu.Command)}
  {table after : RoomTable}

theorem new (reconnectGrace : Duration) :
    InOrder [] [] (RoomTable.new reconnectGrace) where
  ascending := by simp [line]
  numbered := by simp
  opened := by simp
  sessions := by simp [RoomTable.connection?]
  distinct := by simp [RoomTable.connection?]
  waiting := by simp
  single := by simp

theorem widen
    {wider : List Sfu.ConnectionId}
    (ordered : InOrder used sent table)
    (includes : ∀ connectionId ∈ used, connectionId ∈ wider) :
    InOrder wider sent table :=
  { ordered with
    opened := fun entry listed => includes _ (ordered.opened entry listed)
    sessions := fun instanceId connectionId session =>
      includes _ (ordered.sessions instanceId connectionId session) }

/-- Nothing is issued or retired and no worker gets another connection. -/
theorem silent
    (ordered : InOrder used sent table)
    (same : ∀ requestId, SameCommand table after requestId)
    (next : after.nextSfuRequestId = table.nextSfuRequestId)
    (connections : ∀ instanceId connectionId,
      after.connection? instanceId = some connectionId ->
      table.connection? instanceId = some connectionId) :
    InOrder used sent after where
  ascending := ordered.ascending
  numbered := by
    rw [next]
    exact ordered.numbered
  opened := ordered.opened
  sessions instanceId connectionId session :=
    ordered.sessions instanceId connectionId (connections _ _ session)
  distinct instanceId otherId connectionId session other :=
    ordered.distinct instanceId otherId connectionId
      (connections _ _ session) (connections _ _ other)
  waiting requestId pending instanceId roomId connectionId outstanding withholds
      session := by
    rw [(same requestId).1] at outstanding
    exact ordered.waiting requestId pending instanceId roomId connectionId
      outstanding withholds (connections _ _ session)
  single requestId otherId pending other instanceId roomId outstanding again := by
    rw [(same requestId).1] at outstanding
    rw [(same otherId).1] at again
    exact ordered.single requestId otherId pending other instanceId roomId
      outstanding again

theorem pushActions
    (ordered : InOrder used sent table)
    (actions : List Action) :
    InOrder used sent (table.pushActions actions) :=
  ordered.silent (fun _ => by simp [SameCommand]) (by simp)
    fun _ _ session => by simpa [RoomTable.connection?] using session

theorem retire
    (ordered : InOrder used sent table)
    (answered : Nat) :
    InOrder used sent (table.retireCommand answered) := by
  have kept {requestId : Nat} {pending : PendingCommand}
      (outstanding : (table.retireCommand answered).pendingCommands[requestId]?
        = some pending) :
      table.pendingCommands[requestId]? = some pending := by
    simp only [retireCommand_pendingCommands, ExtTreeMap.getElem?_erase]
      at outstanding
    grind
  exact { ordered with
    waiting := fun requestId pending instanceId roomId connectionId outstanding =>
      ordered.waiting requestId pending instanceId roomId connectionId
        (kept outstanding)
    single := fun requestId otherId pending other instanceId roomId outstanding
        again =>
      ordered.single requestId otherId pending other instanceId roomId
        (kept outstanding) (kept again) }

theorem retireAll
    (ordered : InOrder used sent table)
    (requestIds : List Nat) :
    InOrder used sent (table.retireAll requestIds) := by
  induction requestIds generalizing table with
  | nil => exact ordered
  | cons requestId requestIds inductionHypothesis =>
      exact inductionHypothesis (ordered.retire requestId)

/-- A worker gets a connection on which nothing has been sent. -/
theorem connect
    {instanceId : InstanceId}
    {connectionId : Sfu.ConnectionId}
    (ordered : InOrder used sent table)
    (capacity : Sfu.Capacity)
    (fresh : connectionId ∉ used) :
    InOrder (connectionId :: used) sent
      (table.connectWorker connectionId instanceId capacity) := by
  have session (otherId : InstanceId) :
      (table.connectWorker connectionId instanceId capacity).connection? otherId
        = if instanceId = otherId then some connectionId
          else table.connection? otherId := by
    simp only [RoomTable.connection?, RoomTable.connectWorker,
      ExtTreeMap.getElem?_insert]
    split <;> simp_all
  have unused : ∀ entry ∈ sent, entry.1 ≠ connectionId := by
    rintro entry listed rfl
    exact fresh (ordered.opened entry listed)
  have wider : InOrder (connectionId :: used) sent table :=
    ordered.widen fun _ => List.mem_cons_of_mem _
  refine { wider with
    sessions := ?_, distinct := ?_, waiting := ?_ }
  · intro otherId other connected
    rw [session] at connected
    split at connected
    · cases connected
      exact List.mem_cons_self
    · exact wider.sessions otherId other connected
  · intro first second other connected same
    rw [session] at connected same
    split at connected <;> split at same
    · simp_all
    · cases connected
      exact absurd (ordered.sessions _ _ same) fresh
    · cases same
      exact absurd (ordered.sessions _ _ connected) fresh
    · exact ordered.distinct first second other connected same
  · intro requestId pending otherId roomId other outstanding withholds connected
    rw [session] at connected
    split at connected
    · cases connected
      exact line_of_unused unused roomId
    · exact ordered.waiting requestId pending otherId roomId other outstanding
        withholds connected

/-- One more command goes out under the next number. -/
theorem extend
    {instanceId : InstanceId}
    {connectionId : Sfu.ConnectionId}
    {command : Sfu.CommandKind}
    {pending : PendingCommand}
    (ordered : InOrder used sent table)
    (connected : table.connection? instanceId = some connectionId)
    (agrees : pending.isSync = commandIsSync command)
    (unspent : (table.issueCommand instanceId connectionId command
      pending).nextSfuRequestId < u64Max)
    (waiting : ∀ otherId roomId, pending.Withholds otherId roomId ->
      otherId = instanceId ∧ line connectionId roomId sent = [])
    (free : commandIsSync command = false ->
      ∀ (requestId : Nat) waiting,
        table.pendingCommands[requestId]? = some waiting ->
        ¬waiting.Withholds instanceId (commandRoomId ⟨requestId, command⟩))
    (alone : ∀ otherId roomId, pending.Withholds otherId roomId ->
      ∀ (requestId : Nat) waiting,
        table.pendingCommands[requestId]? = some waiting ->
        ¬waiting.Withholds otherId roomId) :
    InOrder used
      (sent ++ [(connectionId, ⟨table.nextSfuRequestId, command⟩)])
      (table.issueCommand instanceId connectionId command pending) := by
  have grown := Filed.issued_next unspent
  have added (other : Sfu.ConnectionId) (roomId : RoomId) :
      line other roomId [(connectionId,
        (⟨table.nextSfuRequestId, command⟩ : Sfu.Command))] =
      if connectionId = other ∧ commandIsSync command = false ∧
        commandRoomId ⟨table.nextSfuRequestId, command⟩ = roomId
      then [table.nextSfuRequestId] else [] := by
    simp only [line, List.filter_cons, List.filter_nil]
    split <;> split <;> simp_all
  refine
    { ascending := ?_
      numbered := ?_
      opened := ?_
      sessions := ordered.sessions
      distinct := ordered.distinct
      waiting := ?_
      single := ?_ }
  · intro other roomId
    rw [line_append, List.pairwise_append]
    refine ⟨ordered.ascending other roomId, ?_, ?_⟩
    · rw [added]
      split <;> simp
    · intro older listed newer last
      obtain ⟨earlier, inside, -, -, rfl⟩ := mem_line.1 listed
      rw [added] at last
      split at last
      · rw [List.mem_singleton.1 last]
        exact ordered.numbered _ inside
      · cases last
  · intro entry listed
    rw [grown]
    rcases List.mem_append.1 listed with older | last
    · exact Nat.lt_succ_of_lt (ordered.numbered entry older)
    · rw [List.mem_singleton.1 last]
      exact Nat.lt_succ_self _
  · intro entry listed
    rcases List.mem_append.1 listed with older | last
    · exact ordered.opened entry older
    · rw [List.mem_singleton.1 last]
      exact ordered.sessions instanceId connectionId connected
  · intro requestId record otherId roomId other outstanding withholds session
    simp only [issueCommand_pendingCommands, ExtTreeMap.getElem?_insert]
      at outstanding
    rw [line_append, List.append_eq_nil_iff, added]
    have carried : table.connection? otherId = some other := session
    split at outstanding
    · cases outstanding
      obtain ⟨rfl, empty⟩ := waiting otherId roomId withholds
      obtain rfl : connectionId = other := by
        rw [connected] at carried
        exact Option.some.inj carried
      refine ⟨empty, if_neg fun same => ?_⟩
      rw [← agrees, withholds.isSync] at same
      cases same.2.1
    · refine ⟨ordered.waiting requestId record otherId roomId other outstanding
        withholds carried, if_neg fun same => ?_⟩
      obtain ⟨rfl, original, rfl⟩ := same
      have owner := ordered.distinct instanceId otherId connectionId connected
        carried
      subst owner
      exact free original requestId record outstanding withholds
  · intro requestId otherId record other owner roomId outstanding again holds
      others
    simp only [issueCommand_pendingCommands, ExtTreeMap.getElem?_insert]
      at outstanding again
    split at outstanding <;> split at again
    · rename_i first second
      exact (compare_eq_iff_eq.1 first).symm.trans (compare_eq_iff_eq.1 second)
    · cases outstanding
      exact absurd others (alone owner roomId holds otherId other again)
    · cases again
      exact absurd holds (alone owner roomId others requestId record outstanding)
    · exact ordered.single requestId otherId record other owner roomId
        outstanding again holds others

/-- A confirmed synchronization releases its replay, which comes first on its
connection. -/
theorem release
    {requestId : Nat}
    {instanceId : InstanceId}
    {roomId : RoomId}
    {assignmentEpoch : Nat}
    {replay : List Sfu.Command}
    {connectionId : Sfu.ConnectionId}
    (ordered : InOrder used sent table)
    (filed : Filed table)
    (outstanding : table.pendingCommands[requestId]? =
      some (.syncRoom instanceId roomId assignmentEpoch replay))
    (connected : table.connection? instanceId = some connectionId)
    (ascending : (replay.map (·.requestId)).Pairwise (· < ·)) :
    InOrder used (sent ++ replay.map (connectionId, ·))
      ((table.retireCommand requestId).replayCommands connectionId replay) := by
  have released : InOrder used sent
      ((table.retireCommand requestId).replayCommands connectionId replay) :=
    (ordered.retire requestId).pushActions _
  have held := filed.replays requestId instanceId roomId assignmentEpoch replay
    outstanding
  have whole := line_replay (fun command listed =>
    ⟨(held command listed).2.1, (held command listed).2.2.1⟩) connectionId
  have next : ((table.retireCommand requestId).replayCommands connectionId
      replay).nextSfuRequestId = table.nextSfuRequestId := by
    simp [RoomTable.replayCommands]
  refine { released with
    ascending := ?_, numbered := ?_, opened := ?_, waiting := ?_ }
  · intro other otherRoom
    rw [line_append, whole]
    split
    · rename_i same
      obtain ⟨rfl, rfl⟩ := same
      by_cases empty : replay = []
      · simpa [empty] using ordered.ascending connectionId roomId
      · rw [ordered.waiting requestId _ instanceId roomId connectionId
          outstanding ⟨assignmentEpoch, replay, rfl, empty⟩ connected]
        exact ascending
    · simpa using ordered.ascending other otherRoom
  · intro entry listed
    rw [next]
    rcases List.mem_append.1 listed with older | last
    · exact ordered.numbered entry older
    · obtain ⟨command, inside, rfl⟩ := List.mem_map.1 last
      exact (held command inside).1
  · intro entry listed
    rcases List.mem_append.1 listed with older | last
    · exact ordered.opened entry older
    · obtain ⟨command, inside, rfl⟩ := List.mem_map.1 last
      exact ordered.sessions instanceId connectionId connected
  · intro otherId pending worker otherRoom other waits withholds session
    rw [line_append, whole, released.waiting otherId pending worker otherRoom
      other waits withholds session, List.nil_append]
    by_cases empty : replay = []
    · simp [empty]
    refine if_neg fun same => ?_
    obtain ⟨rfl, rfl⟩ := same
    have kept : otherId ≠ requestId ∧
        table.pendingCommands[otherId]? = some pending := by
      simp only [RoomTable.replayCommands, pushActions_pendingCommands,
        retireCommand_pendingCommands, ExtTreeMap.getElem?_erase] at waits
      grind
    have carried : table.connection? worker = some connectionId := by
      simpa [RoomTable.replayCommands, RoomTable.connection?] using session
    have owner := ordered.distinct instanceId worker connectionId connected
      carried
    subst owner
    exact kept.1 (ordered.single otherId requestId pending _ instanceId roomId
      kept.2 outstanding withholds ⟨assignmentEpoch, replay, rfl, empty⟩)

/-- The synchronizations that wait in a later table waited in the earlier. -/
def SyncsFrom (table after : RoomTable) : Prop :=
  ∀ (requestId : Nat) pending,
    after.pendingCommands[requestId]? = some pending ->
    pending.isSync = true ->
    table.pendingCommands[requestId]? = some pending

/-- A chain of ledger steps without synchronizations and new connections keeps
commands in order when what it issues is not overtaking. -/
theorem ledger
    {before : RoomTable}
    {issues : InstanceId -> Sfu.Command -> PendingCommand -> Prop}
    {retires : Nat -> Prop}
    (ordered : InOrder used sent table)
    (steps : Ledger issues retires (fun _ _ => False) table after)
    (bounded : table.nextSfuRequestId ≤ u64Max)
    (unspent : after.nextSfuRequestId < u64Max)
    (syncs : SyncsFrom before table)
    (free : ∀ instanceId command pending, issues instanceId command pending ->
      pending.isSync = false ∧ ∀ (requestId : Nat) waiting,
        before.pendingCommands[requestId]? = some waiting ->
        ¬waiting.Withholds instanceId (commandRoomId command)) :
    SyncsFrom before after ∧ ∃ new, after.actions = table.actions ++ new ∧
      InOrder used (sent ++ handed new) after := by
  induction steps with
  | refl => exact ⟨syncs, [], by simp, by simpa [handed] using ordered⟩
  | tail earlier step inductionHypothesis =>
      rename_i middle last
      have within := (Ledger.next_le earlier bounded).2
      have grown := (Ledger.next_le (Relation.ReflTransGen.single step)
        within).1
      obtain ⟨from_before, new, appended, kept⟩ := inductionHypothesis (by omega)
      cases step with
      | silent more same next connections queued nothing =>
          refine ⟨fun requestId pending outstanding sync => ?_, new ++ more, ?_,
            ?_⟩
          · rw [(same requestId).1] at outstanding
            exact from_before requestId pending outstanding sync
          · rw [queued, appended, List.append_assoc]
          · rw [handed_append, nothing, List.append_nil]
            exact kept.silent same next connections
      | connect capacity allowed => exact allowed.elim
      | issue connected agrees allowed =>
          rename_i instanceId connectionId command pending
          obtain ⟨original, clear⟩ := free _ _ _ allowed
          refine ⟨fun requestId record outstanding sync => ?_,
            new ++ [.sfu (.command connectionId
              ⟨middle.nextSfuRequestId, command⟩)], ?_, ?_⟩
          · simp only [issueCommand_pendingCommands, ExtTreeMap.getElem?_insert]
              at outstanding
            split at outstanding
            · cases outstanding
              rw [original] at sync
              cases sync
            · exact from_before requestId record outstanding sync
          · rw [issueCommand_actions, appended, List.append_assoc]
          · rw [handed_append, ← List.append_assoc]
            refine kept.extend connected agrees unspent ?_ ?_ ?_
            · intro otherId roomId withholds
              rw [withholds.isSync] at original
              cases original
            · intro _ requestId waiting outstanding withholds
              exact clear requestId waiting (from_before requestId waiting
                outstanding withholds.isSync) withholds
            · intro otherId roomId withholds
              rw [withholds.isSync] at original
              cases original
      | retire allowed =>
          refine ⟨fun requestId pending outstanding sync => ?_, new, appended,
            kept.retire _⟩
          simp only [retireCommand_pendingCommands, ExtTreeMap.getElem?_erase]
            at outstanding
          split at outstanding
          · cases outstanding
          · exact from_before requestId pending outstanding sync

/-- What a registering worker is asked to synchronize keeps commands in order:
its connection has carried no command yet. -/
theorem syncRooms
    {order : VisitOrder}
    {instanceId : InstanceId}
    {connectionId : Sfu.ConnectionId}
    (roomIds : List RoomId)
    (ordered : InOrder used sent table)
    (connected : table.connection? instanceId = some connectionId)
    (untouched : ∀ roomId, line connectionId roomId sent = [])
    (nodup : roomIds.Nodup)
    (unasked : ∀ roomId ∈ roomIds, ∀ (requestId : Nat) pending,
      table.pendingCommands[requestId]? = some pending ->
      ¬pending.Withholds instanceId roomId)
    (bounded : table.nextSfuRequestId ≤ u64Max)
    (unspent : (roomIds.foldl (syncAssignedRoom order instanceId connectionId)
      table).nextSfuRequestId < u64Max) :
    ∃ new, (roomIds.foldl (syncAssignedRoom order instanceId connectionId)
        table).actions = table.actions ++ new ∧
      InOrder used (sent ++ handed new) (roomIds.foldl
        (syncAssignedRoom order instanceId connectionId) table) := by
  induction roomIds generalizing table sent with
  | nil => exact ⟨[], by simp, by simpa [handed] using ordered⟩
  | cons roomId roomIds inductionHypothesis =>
      rw [List.foldl_cons] at unspent ⊢
      obtain ⟨fresh, nodup⟩ := List.nodup_cons.1 nodup
      have later := fun otherRoom listed =>
        unasked otherRoom (List.mem_cons_of_mem _ listed)
      cases found : table.rooms[roomId]? with
      | none =>
          simp only [syncAssignedRoom, found] at unspent ⊢
          exact inductionHypothesis ordered connected untouched nodup later
            bounded unspent
      | some room =>
          obtain ⟨members, asked⟩ := Filed.syncAssignedRoom_eq order instanceId
            connectionId found
          rw [asked] at unspent ⊢
          have grown := table.issueCommand_next_le instanceId connectionId
            (.syncRoom ⟨roomId, room.assignmentEpoch, members⟩)
            (.syncRoom instanceId roomId room.assignmentEpoch
              (table.replayFor order instanceId roomId)) bounded
          have first := ordered.extend connected rfl (lt_of_le_of_lt
            (Filed.syncRooms_next_le order instanceId connectionId roomIds
              grown.2).1 unspent)
            (fun otherId otherRoom withholds => by
              obtain ⟨_, _, same, -⟩ := withholds
              cases same
              exact ⟨rfl, untouched roomId⟩)
            (by simp [commandIsSync])
            (fun otherId otherRoom withholds => by
              obtain ⟨_, _, same, -⟩ := withholds
              cases same
              exact unasked roomId List.mem_cons_self)
          obtain ⟨new, appended, kept⟩ := inductionHypothesis first connected
            (fun otherRoom => by
              rw [line_append, untouched, line_of_syncs (by simp [commandIsSync])]
              rfl) nodup (fun otherRoom listed requestId pending recorded
                withholds => by
              simp only [issueCommand_pendingCommands,
                ExtTreeMap.getElem?_insert] at recorded
              split at recorded
              · cases recorded
                obtain ⟨_, _, same, -⟩ := withholds
                cases same
                exact fresh listed
              · exact later otherRoom listed requestId pending recorded
                  withholds) grown.2 unspent
          refine ⟨[.sfu (.command connectionId ⟨table.nextSfuRequestId,
            .syncRoom ⟨roomId, room.assignmentEpoch, members⟩⟩)] ++ new, ?_, ?_⟩
          · rw [appended, issueCommand_actions, List.append_assoc]
          · rw [handed_append, ← List.append_assoc]
            exact kept

end InOrder

namespace InOrder

variable
  {used : List Sfu.ConnectionId}
  {sent : List (Sfu.ConnectionId × Sfu.Command)}
  {table : RoomTable}
  {call : Call}

/-- A worker registers on a connection that was not used before. -/
theorem registers
    {connectionId : Sfu.ConnectionId}
    {instanceId : InstanceId}
    {requestId : Nat}
    {capacity : Sfu.Capacity}
    (ordered : InOrder used sent table)
    (asked : call.operation = .handleSfuInput
      (.register connectionId instanceId requestId capacity))
    (fresh : connectionId ∉ used)
    (bounded : table.nextSfuRequestId ≤ u64Max)
    (unspent : (table.step call).nextSfuRequestId < u64Max) :
    ∃ new, (table.step call).actions = table.actions ++ new ∧
      InOrder (connectionId :: used) (sent ++ handed new) (table.step call) := by
  have stepped : table.step call = (table.registerWorker call.order connectionId
      instanceId requestId capacity).2 := by
    simp [RoomTable.step, asked, handleSfuInput]
  rw [stepped] at unspent ⊢
  rcases registerWorker_cases table call.order connectionId instanceId requestId
    capacity with ⟨notice, -, nothing, refused⟩ | ⟨notices, nothing, bound⟩
  · rw [refused]
    refine ⟨[notice], rfl, ?_⟩
    rw [nothing, List.append_nil]
    exact (ordered.widen fun _ => List.mem_cons_of_mem _).pushActions [notice]
  · rw [bound] at unspent ⊢
    have untouched (roomId : RoomId) : line connectionId roomId sent = [] := by
      refine line_of_unused (fun entry listed same => fresh ?_) roomId
      rw [← same]
      exact ordered.opened entry listed
    obtain ⟨new, appended, kept⟩ :=
      (((ordered.connect capacity fresh).pushActions notices).retireAll
        (table.syncsOf instanceId)).syncRooms _
        (by simp [RoomTable.connection?, RoomTable.connectWorker]) untouched
        (ExtTreeSet.distinct_toList.imp Std.ReflCmp.ne_of_cmp_ne_eq)
        (fun roomId _ requestId pending recorded withholds => by
          rw [retireAll_pendingCommands] at recorded
          split at recorded
          · cases recorded
          rename_i unlisted
          refine unlisted (List.mem_map.2 ⟨(requestId, pending),
            List.mem_filter.2 ⟨?_, ?_⟩, rfl⟩)
          · exact ExtTreeMap.mem_toList_iff_getElem?_eq_some.2
              (by simpa [RoomTable.connectWorker] using recorded)
          · obtain ⟨_, _, rfl, -⟩ := withholds
            simp [PendingCommand.isSyncOf])
        (by simpa [RoomTable.connectWorker] using bounded) unspent
    refine ⟨notices ++ new, ?_, ?_⟩
    · rw [appended]
      simp [RoomTable.connectWorker]
    · rw [handed_append, nothing, List.nil_append]
      exact kept

/-- Every orderly call keeps commands in order. -/
theorem step
    (ordered : InOrder used sent table)
    (filed : Filed table)
    (consistent : table.Consistent)
    (orderly : Orderly table call)
    (fresh : ∀ connectionId, call.session? = some connectionId ->
      connectionId ∉ used)
    (unspent : (table.step call).nextSfuRequestId < u64Max) :
    InOrder (call.session?.toList ++ used)
      (sent ++ handed (table.emitted call)) (table.step call) := by
  have bounded := consistent.wellFormed.counter
  cases step_filing consistent call with
  | polled rest polls stepped =>
      have nothing : table.emitted call = [] := by
        simp [RoomTable.emitted, polls]
      have closed : call.session? = none := by simp [Call.session?, polls]
      rw [nothing, closed, stepped, show handed [] = [] from rfl,
        List.append_nil]
      exact ordered.silent (fun _ => ⟨rfl, rfl, rfl⟩) rfl
        fun _ _ session => session
  | registered asked stepped =>
      rename_i connectionId instanceId requestId capacity
      have session : call.session? = some connectionId := by
        simp [Call.session?, asked]
      obtain ⟨new, appended, kept⟩ := ordered.registers asked
        (fresh connectionId session) bounded unspent
      rw [emitted_of_append (by simp [asked]) appended, session]
      exact kept
  | released accepts outstanding connected stepped =>
      rename_i instanceId requestId roomId assignmentEpoch replay connectionId
      obtain ⟨result, answers, -⟩ := id accepts
      obtain ⟨_, _, asked, -⟩ := id answers
      obtain ⟨carrier, session, all⟩ := handed_of_accepts accepts
      obtain rfl := Option.some.inj (session.symm.trans connected)
      have closed : call.session? = none := by simp [Call.session?, asked]
      rw [all, stepped, closed]
      exact ordered.release filed outstanding connected
        (orderly.ascending _ _ _ _ _ accepts)
  | filed appends unregistered holds steps =>
      obtain ⟨-, new, appended, kept⟩ := ordered.ledger steps bounded unspent
        (fun _ _ waits _ => waits) fun instanceId command pending issued =>
          ⟨issued.1, orderly.waits instanceId (commandRoomId command)
            (issued.2.1.hands consistent.wellFormed)⟩
      rw [emitted_of_append appends appended, unregistered]
      exact kept

end InOrder

/-- The call confirms the synchronization, whose replay is ascending. -/
def Call.releases
    (call : Call)
    (table : RoomTable)
    (requestId : Nat)
    (pending : PendingCommand) : Bool :=
  match call.operation, pending with
  | .handleSfuInput (.commandResult connectionId instanceId result _),
      .syncRoom expected roomId assignmentEpoch replay =>
      result.requestId = requestId && expected = instanceId
        && table.connection? instanceId = some connectionId
        && confirmsSync roomId assignmentEpoch result.result
        && (replay.map (·.requestId)).Pairwise (· < ·)
  | _, _ => false

theorem Call.accepts_of_releases
    {call : Call}
    {table : RoomTable}
    {requestId : Nat}
    {pending : PendingCommand}
    {instanceId : InstanceId}
    (releases : call.releases table requestId pending = true)
    (outstanding : table.pendingCommands[requestId]? = some pending)
    (own : pending.isSyncOf instanceId = true) :
    call.Accepts table instanceId requestId pending := by
  unfold Call.releases at releases
  split at releases
  · rename_i connectionId carrier result now expected roomId epoch replay asked
    simp only [Bool.and_eq_true, decide_eq_true_eq, PendingCommand.isSyncOf]
      at releases own
    obtain ⟨⟨⟨⟨rfl, rfl⟩, connected⟩, confirms⟩, -⟩ := releases
    subst own
    exact ⟨result.result, ⟨connectionId, now, asked, connected, outstanding⟩,
      rfl, confirms⟩
  · cases releases

/-- A call is orderly when it confirms every synchronization that holds back
commands. -/
theorem orderly_of_releases
    {table : RoomTable}
    {call : Call}
    (checked : table.pendingCommands.toList.all (fun entry =>
      match entry.2 with
      | .syncRoom _ _ _ (_ :: _) => call.releases table entry.1 entry.2
      | _ => true) = true) :
    Orderly table call := by
  have released {requestId : Nat} {instanceId : InstanceId} {roomId : RoomId}
      {assignmentEpoch : Nat} {replay : List Sfu.Command}
      (outstanding : table.pendingCommands[requestId]? =
        some (.syncRoom instanceId roomId assignmentEpoch replay))
      (nonempty : replay ≠ []) :
      call.releases table requestId
        (.syncRoom instanceId roomId assignmentEpoch replay) = true := by
    have first := List.all_eq_true.1 checked (requestId, _)
      (ExtTreeMap.mem_toList_iff_getElem?_eq_some.2 outstanding)
    obtain ⟨command, rest, rfl⟩ := List.exists_cons_of_ne_nil nonempty
    exact first
  constructor
  · rintro instanceId requestId roomId assignmentEpoch replay
      ⟨result, ⟨_, _, asked, -, outstanding⟩, -⟩
    by_cases empty : replay = []
    · simp [empty]
    · have checked := released outstanding empty
      simp only [Call.releases, asked, Bool.and_eq_true, decide_eq_true_eq]
        at checked
      exact checked.2
  · rintro instanceId roomId hands requestId pending outstanding
      ⟨assignmentEpoch, replay, rfl, nonempty⟩
    have checked := released outstanding nonempty
    have own : (PendingCommand.syncRoom instanceId roomId assignmentEpoch
        replay).isSyncOf instanceId = true := by
      simp [PendingCommand.isSyncOf]
    exact (Call.accepts_of_releases checked outstanding own).hands_nothing rfl
      hands

/-- Runs of orderly calls hand out the joins, leaves and signals of each room in
the order of their numbers on every connection, replays included. -/
theorem commands_in_order
    {reconnectGrace : Duration}
    {history : History}
    {table : RoomTable}
    (run : (machine reconnectGrace).Run history table)
    (once : (sessions history).Nodup)
    (unspent : table.nextSfuRequestId < u64Max)
    (orderly : Machine.Guarded Orderly history)
    (connectionId : Sfu.ConnectionId)
    (roomId : RoomId) :
    (line connectionId roomId (sentIn history)).Pairwise (· < ·) := by
  have ordered := run.history_invariant
    (fun history table =>
      (sessions history).Nodup -> table.nextSfuRequestId < u64Max ->
        InOrder (sessions history) (sentIn history) table)
    (fun state starts => by
      cases starts
      exact fun _ _ => InOrder.new _)
    (fun history table call older orderly ordered => by
      intro once unspent
      have consistent := consistent_of_run older
      have all : sessions ((table, call) :: history) =
          call.session?.toList ++ sessions history := by
        unfold sessions
        cases session : call.session? <;> simp [session]
      rw [all] at once ⊢
      have grown := consistent.next_le call
      have earlier := lt_of_le_of_lt grown unspent
      refine (ordered (List.Nodup.of_append_right once) earlier).step
        (filed_of_run older earlier) consistent orderly
        (fun connectionId session => ?_) unspent
      intro used
      exact (List.nodup_append.1 once).2.2 connectionId (by simp [session])
        connectionId used rfl) orderly
  exact (ordered once unspent).ascending connectionId roomId

/-- A worker reconnects while a signal is unanswered and confirms the
synchronization of its room; another signal follows. -/
def resumedOperations (meanwhile : List Operation) : List Operation :=
  forwardedOperations ++
    [.send exampleRoomId 1 1 "offer",
      .handleSfuInput (.disconnected 1 "sfu" 0),
      .handleSfuInput (.register 2 "sfu" 1 ⟨1, 3⟩)] ++
    meanwhile ++
    [.handleSfuInput (.commandResult 2 "sfu"
        ⟨5, .ok (.roomSynced ⟨exampleRoomId, 1⟩)⟩ 0),
      .send exampleRoomId 2 1 "answer"]

theorem commands_in_order_resumed :
    line 2 exampleRoomId
        (sentIn (played 0 (resumedOperations [])).1) = [4, 6] ∧
      (line 2 exampleRoomId
        (sentIn (played 0 (resumedOperations [])).1)).Pairwise (· < ·) := by
  have orderly : Machine.Guarded Orderly
      (played 0 (resumedOperations [])).1 := by
    intro event taken
    have checked : (played 0 (resumedOperations [])).1.all (fun event =>
        event.1.pendingCommands.toList.all fun entry =>
          match entry.2 with
          | .syncRoom _ _ _ (_ :: _) => event.2.releases event.1 entry.1 entry.2
          | _ => true) = true := by
      decide +kernel
    exact orderly_of_releases (List.all_eq_true.1 checked event taken)
  exact ⟨by decide +kernel, commands_in_order (played_run 0 _)
    (by decide +kernel) (by decide +kernel) orderly 2 exampleRoomId⟩

/-- A signal that is sent before the worker has confirmed the synchronization
overtakes the one that is replayed. -/
theorem signal_overtakes_replay :
    ¬∀ (history : History) (table : RoomTable),
      (machine 0).Run history table -> (sessions history).Nodup ->
      table.nextSfuRequestId < u64Max ->
      ∀ connectionId roomId,
        (line connectionId roomId (sentIn history)).Pairwise (· < ·) := by
  intro ordered
  have overtaken := ordered _ _
    (played_run 0 (resumedOperations [.send exampleRoomId 3 1 "offer"]))
    (by decide +kernel) (by decide +kernel) 2 exampleRoomId
  revert overtaken
  decide +kernel

end V2
end Signaling
