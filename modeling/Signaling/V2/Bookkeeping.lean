import Signaling.V2.Filing

/-!
# The bookkeeping of commands

Commands are numbered from one on, without a gap and without a repetition, as
long as the numbers last. Their three records come and go together, describe
one command, and never come back.
-/

namespace Signaling
namespace V2

open Std (ExtTreeMap)
open RoomTable

/-- Commands are recorded under numbers that were given out, with their own
texts, and the records of one command agree. -/
structure Booked (table : RoomTable) : Prop where
  positive : 1 ≤ table.nextSfuRequestId
  numbered : ∀ requestId : Nat, table.pendingCommands[requestId]?.isSome ->
    1 ≤ requestId ∧ requestId < table.nextSfuRequestId
  text : ∀ (requestId : Nat) (command : Sfu.Command),
    table.unacknowledgedCommands[requestId]? = some command ->
    command.requestId = requestId
  described : ∀ (requestId : Nat) (pending : PendingCommand)
      (command : Sfu.Command) (instanceId : InstanceId),
    table.pendingCommands[requestId]? = some pending ->
    table.unacknowledgedCommands[requestId]? = some command ->
    table.commandWorkers[requestId]? = some instanceId ->
    pending.Describes instanceId command.command

theorem Booked.new (reconnectGrace : Duration) :
    Booked (RoomTable.new reconnectGrace) where
  positive := by simp [RoomTable.new]
  numbered := by simp
  text := by simp
  described := by simp

/-- The commands were queued between the two tables: they have the next numbers,
the records stay as they should be, and no record comes back. -/
structure Books
    (table after : RoomTable)
    (commands : List Sfu.Command) : Prop where
  next : after.nextSfuRequestId = table.nextSfuRequestId + commands.length
  numbers : commands.map (·.requestId) =
    List.range' table.nextSfuRequestId commands.length
  booked : Booked table -> Booked after
  retired : ∀ requestId : Nat, requestId < table.nextSfuRequestId ->
    table.pendingCommands[requestId]? = none ->
    after.pendingCommands[requestId]? = none

namespace Books

variable {table middle after : RoomTable}

theorem of_same
    (same : ∀ requestId, SameCommand table after requestId)
    (next : after.nextSfuRequestId = table.nextSfuRequestId) :
    Books table after [] where
  next := next
  numbers := rfl
  booked booked :=
    { positive := next ▸ booked.positive
      numbered := fun requestId => by
        rw [(same requestId).1, next]
        exact booked.numbered requestId
      text := fun requestId => by
        rw [(same requestId).2.2]
        exact booked.text requestId
      described := fun requestId => by
        rw [(same requestId).1, (same requestId).2.1, (same requestId).2.2]
        exact booked.described requestId }
  retired requestId _ absent := (same requestId).1.trans absent

theorem refl : Books table table [] :=
  of_same (fun _ => ⟨rfl, rfl, rfl⟩) rfl

theorem trans
    {first second : List Sfu.Command}
    (earlier : Books table middle first)
    (later : Books middle after second) :
    Books table after (first ++ second) where
  next := by
    rw [later.next, earlier.next, List.length_append, Nat.add_assoc]
  numbers := by
    rw [List.map_append, earlier.numbers, later.numbers, earlier.next,
      List.length_append, List.range'_append_1]
  booked booked := later.booked (earlier.booked booked)
  retired requestId older absent := by
    refine later.retired requestId ?_ (earlier.retired requestId older absent)
    rw [earlier.next]
    omega

theorem silent
    {commands : List Sfu.Command}
    (earlier : Books table middle commands)
    (same : ∀ requestId, SameCommand middle after requestId)
    (next : after.nextSfuRequestId = middle.nextSfuRequestId) :
    Books table after commands := by
  have extended := earlier.trans (of_same same next)
  rwa [List.append_nil] at extended

theorem retire (answered : Nat) :
    Books table (table.retireCommand answered) [] where
  next := rfl
  numbers := rfl
  booked booked := by
    obtain ⟨positive, numbered, text, described⟩ := booked
    constructor <;> simp only [retireCommand_pendingCommands,
      retireCommand_commandWorkers, retireCommand_unacknowledgedCommands,
      retireCommand_nextSfuRequestId]
    all_goals grind
  retired requestId _ absent := by
    simp [absent, ExtTreeMap.getElem?_erase]

theorem retireAll (requestIds : List Nat) :
    Books table (table.retireAll requestIds) [] := by
  induction requestIds generalizing table with
  | nil => exact refl
  | cons requestId requestIds inductionHypothesis =>
      exact (retire requestId).trans inductionHypothesis

/-- While there are numbers left, a command that is queued gets the next one,
under which nothing is recorded. -/
theorem issue
    {instanceId : InstanceId}
    {connectionId : Sfu.ConnectionId}
    {command : Sfu.CommandKind}
    {pending : PendingCommand}
    (left : table.nextSfuRequestId + 1 ≤ u64Max)
    (describes : pending.Describes instanceId command) :
    Books table (table.issueCommand instanceId connectionId command pending)
      [⟨table.nextSfuRequestId, command⟩] where
  next := by
    simp only [issueCommand_nextSfuRequestId, saturatingAdd,
      List.length_singleton]
    omega
  numbers := rfl
  booked booked := by
    have grown : (table.issueCommand instanceId connectionId command
        pending).nextSfuRequestId = table.nextSfuRequestId + 1 := by
      simp only [issueCommand_nextSfuRequestId, saturatingAdd]
      omega
    obtain ⟨positive, numbered, text, described⟩ := booked
    constructor
    · omega
    · intro requestId outstanding
      rw [grown]
      simp only [issueCommand_pendingCommands, ExtTreeMap.getElem?_insert]
        at outstanding
      split at outstanding
      · next same =>
          rw [compare_eq_iff_eq] at same
          omega
      · have older := numbered requestId outstanding
        omega
    · intro requestId recorded found
      simp only [issueCommand_unacknowledgedCommands,
        ExtTreeMap.getElem?_insert] at found
      split at found
      · next same =>
          cases found
          exact compare_eq_iff_eq.1 same
      · exact text requestId recorded found
    · intro requestId record recorded worker outstanding found addressed
      simp only [issueCommand_pendingCommands, issueCommand_commandWorkers,
        issueCommand_unacknowledgedCommands, ExtTreeMap.getElem?_insert]
        at outstanding found addressed
      split at outstanding
      · next same =>
          rw [if_pos same] at found addressed
          cases outstanding
          cases found
          cases addressed
          exact describes
      · next other =>
          rw [if_neg other] at found addressed
          exact described requestId record recorded worker outstanding found
            addressed
  retired requestId older absent := by
    simp only [issueCommand_pendingCommands, ExtTreeMap.getElem?_insert]
    rw [if_neg]
    · exact absent
    · rw [compare_eq_iff_eq]
      omega

end Books

/-- Steps of the ledger keep the books, while the numbers last. -/
theorem Ledger.books
    {issues : InstanceId -> Sfu.Command -> PendingCommand -> Prop}
    {retires : Nat -> Prop}
    {connects : InstanceId -> Sfu.ConnectionId -> Prop}
    {table after : RoomTable}
    (ledger : Ledger issues retires connects table after)
    (describes : ∀ instanceId command pending,
      issues instanceId command pending ->
      pending.Describes instanceId command.command) :
    ∃ new, after.actions = table.actions ++ new ∧
      (table.nextSfuRequestId + (handed new).length ≤ u64Max ->
        Books table after ((handed new).map Prod.snd)) := by
  induction ledger with
  | refl => exact ⟨[], by simp, fun _ => .refl⟩
  | tail earlier step inductionHypothesis =>
      rename_i middle last
      obtain ⟨new, appended, books⟩ := inductionHypothesis
      cases step with
      | silent more same next connections queued nothing =>
          refine ⟨new ++ more, by rw [queued, appended, List.append_assoc], ?_⟩
          rw [handed_append, nothing, List.append_nil]
          exact fun lasts => (books lasts).silent same next
      | connect capacity allowed =>
          exact ⟨new, appended, fun lasts =>
            (books lasts).silent (fun _ => ⟨rfl, rfl, rfl⟩) rfl⟩
      | issue connected agrees allowed =>
          rename_i instanceId connectionId command pending
          refine ⟨new ++ [.sfu (.command connectionId
            ⟨middle.nextSfuRequestId, command⟩)], ?_, fun lasts => ?_⟩
          · rw [issueCommand_actions, appended, List.append_assoc]
          · rw [handed_append, List.length_append] at lasts
            have one : (handed [Action.sfu (.command connectionId
                ⟨middle.nextSfuRequestId, command⟩)]).length = 1 := rfl
            have so_far := books (by omega)
            have next := so_far.next
            rw [List.length_map] at next
            rw [handed_append, List.map_append]
            exact so_far.trans (.issue (by omega) (describes _ _ _ allowed))
      | retire allowed =>
          rename_i answered
          refine ⟨new, appended, fun lasts => ?_⟩
          have extended := (books lasts).trans (Books.retire answered)
          rwa [List.append_nil] at extended

/-- The commands that a call queues: all that it hands out, apart from the
replay that an answered synchronization releases. -/
def RoomTable.queued (table : RoomTable) (call : Call) : List Sfu.Command :=
  match call.operation with
  | .handleSfuInput (.commandResult _ _ result _) =>
      match table.pendingCommands[result.requestId]? with
      | some (.syncRoom ..) => []
      | _ => (handed (table.emitted call)).map Prod.snd
  | _ => (handed (table.emitted call)).map Prod.snd

/-- An answer to a synchronization queues nothing. -/
theorem books_of_synced
    {table : RoomTable}
    {call : Call}
    {connectionId : Sfu.ConnectionId}
    {instanceId expected : InstanceId}
    {result : Sfu.CommandResult}
    {now : Instant}
    {roomId : RoomId}
    {assignmentEpoch : Nat}
    {replay : List Sfu.Command}
    (asked : call.operation = .handleSfuInput
      (.commandResult connectionId instanceId result now))
    (outstanding : table.pendingCommands[result.requestId]? =
      some (.syncRoom expected roomId assignmentEpoch replay)) :
    Books table (table.step call) [] := by
  simp only [RoomTable.step, asked, handleSfuInput, handleCommandResult,
    outstanding]
  split
  · exact .refl
  split
  · exact .refl
  split
  · refine (Books.retire result.requestId).silent (fun otherId => ?_) ?_
    · unfold RoomTable.failRoom
      split <;> exact ⟨rfl, rfl, rfl⟩
    · unfold RoomTable.failRoom
      split <;> rfl
  · exact (Books.retire result.requestId).silent
      (fun _ => by simp [SameCommand, replayCommands])
      (by simp [replayCommands])

theorem books_of_registered
    {table : RoomTable}
    {call : Call}
    {connectionId : Sfu.ConnectionId}
    {instanceId : InstanceId}
    {requestId : Nat}
    {capacity : Sfu.Capacity}
    (asked : call.operation = .handleSfuInput
      (.register connectionId instanceId requestId capacity))
    (lasts : table.nextSfuRequestId +
      (handed (table.emitted call)).length ≤ u64Max) :
    Books table (table.step call)
      ((handed (table.emitted call)).map Prod.snd) := by
  have stepped : table.step call = (table.registerWorker call.order connectionId
      instanceId requestId capacity).2 := by
    simp [RoomTable.step, asked, handleSfuInput]
  have appends : call.operation ≠ .pollAction := by simp [asked]
  rcases registerWorker_cases table call.order connectionId instanceId requestId
    capacity with ⟨notice, -, nothing, refused⟩ | ⟨notices, nothing, bound⟩
  · have appended : (table.step call).actions = table.actions ++ [notice] := by
      rw [stepped, refused]
      rfl
    rw [emitted_of_append appends appended, nothing, stepped, refused]
    exact .of_same (fun _ => ⟨rfl, rfl, rfl⟩) rfl
  · have base : Books table (((table.connectWorker connectionId instanceId
        capacity).pushActions notices).retireAll (table.syncsOf instanceId))
          [] :=
      Books.trans (.of_same (fun _ => by
        simp [SameCommand, RoomTable.connectWorker])
          (by simp [RoomTable.connectWorker])) (.retireAll _)
    obtain ⟨new, appended, books⟩ := Ledger.books (Ledger.syncRooms call.order
      ((table.workers[instanceId]?.getD
        (Worker.unseen capacity)).assignedRooms.toList)
      (show (((table.connectWorker connectionId instanceId capacity).pushActions
        notices).retireAll (table.syncsOf instanceId)).connection? instanceId =
          some connectionId by
        simp [RoomTable.connection?, RoomTable.connectWorker]))
      (fun _ _ _ gathers => gathers.describes)
    have emitted : table.emitted call = notices ++ new := by
      refine emitted_of_append appends ?_
      rw [stepped, bound, appended]
      simp [RoomTable.connectWorker]
    rw [emitted, handed_append, nothing, List.nil_append] at lasts ⊢
    rw [stepped, bound]
    refine base.trans (books ?_)
    simpa [RoomTable.connectWorker] using lasts

/-- A call answers a synchronization, or it queues all that it hands out. -/
theorem queued_cases (table : RoomTable) (call : Call) :
    (∃ connectionId instanceId result now expected roomId assignmentEpoch replay,
      call.operation = .handleSfuInput
        (.commandResult connectionId instanceId result now) ∧
      table.pendingCommands[result.requestId]? =
        some (.syncRoom expected roomId assignmentEpoch replay) ∧
      table.queued call = []) ∨
    table.queued call = (handed (table.emitted call)).map Prod.snd ∧
      ∀ instanceId requestId expected roomId assignmentEpoch replay,
        ¬call.Accepts table instanceId requestId
          (.syncRoom expected roomId assignmentEpoch replay) := by
  unfold RoomTable.queued
  split
  · rename_i connectionId instanceId result now asked
    cases outstanding : table.pendingCommands[result.requestId]? with
    | some pending =>
        cases pending with
        | syncRoom expected roomId assignmentEpoch replay =>
            exact .inl ⟨connectionId, instanceId, result, now, expected, roomId,
              assignmentEpoch, replay, asked, outstanding, rfl⟩
        | _ =>
            refine .inr ⟨rfl, ?_⟩
            rintro _ _ _ _ _ _ ⟨_, ⟨_, _, again, -, recorded⟩, -⟩
            cases asked.symm.trans again
            cases outstanding.symm.trans recorded
    | none =>
        refine .inr ⟨rfl, ?_⟩
        rintro _ _ _ _ _ _ ⟨_, ⟨_, _, again, -, recorded⟩, -⟩
        cases asked.symm.trans again
        cases outstanding.symm.trans recorded
  · rename_i other
    refine .inr ⟨rfl, ?_⟩
    rintro _ _ _ _ _ _ ⟨_, ⟨_, _, asked, -⟩, -⟩
    exact other _ _ _ _ asked

/-- Every call keeps the books, while the numbers last. -/
theorem step_books
    {table : RoomTable}
    (consistent : table.Consistent)
    (call : Call)
    (lasts : table.nextSfuRequestId + (table.queued call).length ≤ u64Max) :
    Books table (table.step call) (table.queued call) := by
  rcases queued_cases table call with ⟨connectionId, instanceId, result, now,
    expected, roomId, assignmentEpoch, replay, asked, outstanding, nothing⟩ |
    ⟨all, unanswered⟩
  · rw [nothing]
    exact books_of_synced asked outstanding
  rw [all, List.length_map] at lasts
  rw [all]
  cases step_filing consistent call with
  | polled rest polls stepped =>
      have nothing : handed (table.emitted call) = [] := by
        simp [RoomTable.emitted, polls, handed]
      rw [nothing, stepped]
      exact .of_same (fun _ => ⟨rfl, rfl, rfl⟩) rfl
  | registered asked stepped => exact books_of_registered asked lasts
  | released accepts outstanding connected stepped =>
      exact absurd accepts (unanswered _ _ _ _ _ _)
  | filed appends unregistered holds steps =>
      obtain ⟨new, appended, books⟩ := Ledger.books steps
        fun _ _ _ issued => issued.2.2
      rw [emitted_of_append appends appended] at lasts ⊢
      exact books lasts

/-- What drives the table: one call, or the end of everything it stores. -/
inductive Request
  | call (call : Call)
  | clear

namespace RoomTable

/-- The table after one request. -/
def serve (table : RoomTable) : Request -> RoomTable
  | .call call => table.step call
  | .clear => table.clear

/-- The room table with a configured grace, as a machine over requests. -/
def lifetime (reconnectGrace : Duration) : Machine RoomTable Request where
  init := fun table => table = new reconnectGrace
  next := serve

/-- The commands that a request queues. -/
def queuedBy (table : RoomTable) : Request -> List Sfu.Command
  | .call call => table.queued call
  | .clear => []

/-- The request takes the command from the outstanding ones. -/
def Retires
    (table : RoomTable)
    (request : Request)
    (requestId : Nat) : Prop :=
  table.pendingCommands[requestId]?.isSome = true ∧
    (table.serve request).pendingCommands[requestId]? = none

end RoomTable

/-- The requests of a run with the tables that they found, newest first. -/
abbrev Log := List (RoomTable × Request)

/-- The commands that a run has queued, in their order. -/
def queuedIn : Log -> List Sfu.Command
  | [] => []
  | (table, request) :: older => queuedIn older ++ table.queuedBy request

/-- Every request keeps the books, while the numbers last. -/
theorem serve_books
    {table : RoomTable}
    (consistent : table.Consistent)
    (request : Request)
    (lasts : table.nextSfuRequestId +
      (table.queuedBy request).length ≤ u64Max) :
    Books table (table.serve request) (table.queuedBy request) := by
  cases request with
  | call call => exact step_books consistent call lasts
  | clear =>
      exact
        { next := rfl
          numbers := rfl
          booked := fun booked =>
            { positive := booked.positive
              numbered := by simp [RoomTable.serve, RoomTable.clear]
              text := by simp [RoomTable.serve, RoomTable.clear]
              described := by simp [RoomTable.serve, RoomTable.clear] }
          retired := by simp [RoomTable.serve, RoomTable.clear] }

/-- The requests of a run queued their commands under unused numbers, and what
they retired is gone. -/
structure Spent (log : Log) (table : RoomTable) : Prop where
  next : table.nextSfuRequestId = 1 + (queuedIn log).length
  numbers : (queuedIn log).map (·.requestId) =
    List.range' 1 (queuedIn log).length
  booked : Booked table
  unused : ∀ event ∈ log, ∀ command ∈ event.1.queuedBy event.2,
    event.1.pendingCommands[command.requestId]? = none
  retired : ∀ event ∈ log, ∀ requestId, event.1.Retires event.2 requestId ->
    requestId < table.nextSfuRequestId ∧
      table.pendingCommands[requestId]? = none

namespace Spent

theorem serve
    {log : Log}
    {table : RoomTable}
    (spent : Spent log table)
    (consistent : table.Consistent)
    (request : Request)
    (lasts : (queuedIn ((table, request) :: log)).length < u64Max) :
    Spent ((table, request) :: log) (table.serve request) := by
  rw [queuedIn, List.length_append] at lasts
  have next := spent.next
  have books := serve_books consistent request (by omega)
  have grown := books.next
  have numbered (requestId : Nat)
      (listed : requestId ∈
        (table.queuedBy request).map (·.requestId)) :
      table.nextSfuRequestId ≤ requestId := by
    rw [books.numbers, List.mem_range'_1] at listed
    exact listed.1
  constructor
  · rw [grown, next, queuedIn, List.length_append, Nat.add_assoc]
  · rw [queuedIn, List.map_append, spent.numbers, books.numbers, next,
      List.length_append, List.range'_append_1]
  · exact books.booked spent.booked
  · intro event listed command queued
    rcases List.mem_cons.1 listed with rfl | earlier
    · have above := numbered command.requestId
        (List.mem_map.2 ⟨command, queued, rfl⟩)
      by_contra recorded
      have below := spent.booked.numbered command.requestId
        (Option.isSome_iff_ne_none.2 recorded)
      omega
    · exact spent.unused event earlier command queued
  · intro event listed requestId retires
    rcases List.mem_cons.1 listed with rfl | earlier
    · have below := (spent.booked.numbered requestId retires.1).2
      exact ⟨by omega, retires.2⟩
    · obtain ⟨below, absent⟩ := spent.retired event earlier requestId retires
      exact ⟨by omega, books.retired requestId below absent⟩

end Spent

theorem spent_of_run
    {reconnectGrace : Duration}
    {log : Log}
    {table : RoomTable}
    (run : (lifetime reconnectGrace).Run log table) :
    table.Consistent ∧ ((queuedIn log).length < u64Max -> Spent log table) := by
  have free : Machine.Guarded (fun _ _ => True) log := fun _ _ => trivial
  refine run.history_invariant
    (fun log table => table.Consistent ∧
      ((queuedIn log).length < u64Max -> Spent log table))
    (fun table starts => ?_) (fun log table request _ _ kept => ?_) free
  · cases starts
    exact ⟨.new reconnectGrace, fun _ =>
      { next := rfl
        numbers := rfl
        booked := .new reconnectGrace
        unused := by simp
        retired := by simp }⟩
  · obtain ⟨consistent, spent⟩ := kept
    refine ⟨?_, fun lasts => (spent ?_).serve consistent request lasts⟩
    · cases request with
      | call call => exact consistent.step call
      | clear => exact consistent.clear
    · rw [queuedIn, List.length_append] at lasts
      omega

/-- A result for a command that is not outstanding changes nothing. -/
theorem unchanged_of_retired
    {table : RoomTable}
    {result : Sfu.CommandResult}
    (absent : table.pendingCommands[result.requestId]? = none)
    (order : VisitOrder)
    (connectionId : Sfu.ConnectionId)
    (instanceId : InstanceId)
    (now : Instant) :
    (table.handleSfuInput order
      (.commandResult connectionId instanceId result now)).2 = table := by
  simp only [handleSfuInput, handleCommandResult, absent]
  split
  · rfl
  · split <;> rfl

/-- In every run that queues fewer than 2^64 - 1 commands: the three records of
commands have the same keys, which are numbers given out; a text is recorded
under its own number; the records of one command agree; the commands were
numbered from one on, each under a number that nothing was recorded under; and
what was retired stays away, so that another result for it changes nothing. -/
theorem commands_booked
    {reconnectGrace : Duration}
    {log : Log}
    {table : RoomTable}
    (run : (lifetime reconnectGrace).Run log table)
    (fewer : (queuedIn log).length < 2 ^ 64 - 1) :
    (∀ requestId : Nat,
      (table.unacknowledgedCommands[requestId]?.isSome =
        table.pendingCommands[requestId]?.isSome) ∧
      (table.commandWorkers[requestId]?.isSome =
        table.pendingCommands[requestId]?.isSome) ∧
      (table.pendingCommands[requestId]?.isSome = true ->
        1 ≤ requestId ∧ requestId < table.nextSfuRequestId)) ∧
      (∀ (requestId : Nat) (command : Sfu.Command),
        table.unacknowledgedCommands[requestId]? = some command ->
        command.requestId = requestId) ∧
      (queuedIn log).map (·.requestId) =
        List.range' 1 (queuedIn log).length ∧
      (∀ event ∈ log, ∀ command ∈ event.1.queuedBy event.2,
        event.1.pendingCommands[command.requestId]? = none) ∧
      (∀ (requestId : Nat) (pending : PendingCommand) (command : Sfu.Command)
          (instanceId : InstanceId),
        table.pendingCommands[requestId]? = some pending ->
        table.unacknowledgedCommands[requestId]? = some command ->
        table.commandWorkers[requestId]? = some instanceId ->
        pending.Describes instanceId command.command) ∧
      (∀ event ∈ log, ∀ requestId, event.1.Retires event.2 requestId ->
        table.pendingCommands[requestId]? = none) ∧
      ∀ (order : VisitOrder) (connectionId : Sfu.ConnectionId)
        (instanceId : InstanceId) (result : Sfu.CommandResult) (now : Instant),
        table.pendingCommands[result.requestId]? = none ->
        (table.handleSfuInput order
          (.commandResult connectionId instanceId result now)).2 = table := by
  obtain ⟨consistent, spends⟩ := spent_of_run run
  have spent := spends fewer
  have records := consistent.records
  exact ⟨fun requestId => ⟨records.commands requestId, records.workers requestId,
      spent.booked.numbered requestId⟩,
    spent.booked.text, spent.numbers, spent.unused, spent.booked.described,
    fun event listed requestId retires =>
      (spent.retired event listed requestId retires).2,
    fun order connectionId instanceId result now absent =>
      unchanged_of_retired absent order connectionId instanceId now⟩

/-- The worker confirms its three joins, and then the first one again. -/
theorem repeated_join_ignored :
    (queuedIn ((lifetime 10).play [] (RoomTable.new 10)
        (forwardedOperations.map fun operation =>
          .call ⟨operation, .sorted⟩)).1).map (·.requestId) = [1, 2, 3] ∧
      ∀ now, (((lifetime 10).play [] (RoomTable.new 10)
          (forwardedOperations.map fun operation =>
            .call ⟨operation, .sorted⟩)).2.handleSfuInput .sorted
          (.commandResult 1 "sfu" ⟨1, .ok .acknowledged⟩ now)).2 =
        ((lifetime 10).play [] (RoomTable.new 10)
          (forwardedOperations.map fun operation =>
            .call ⟨operation, .sorted⟩)).2 := by
  have numbers : (queuedIn ((lifetime 10).play [] (RoomTable.new 10)
      (forwardedOperations.map fun operation =>
        .call ⟨operation, .sorted⟩)).1).map (·.requestId) = [1, 2, 3] := by
    decide +kernel
  have count := congrArg List.length numbers
  rw [List.length_map] at count
  have booked := commands_booked
    ((Machine.Run.start rfl : (lifetime 10).Run [] _).play
      (forwardedOperations.map fun operation =>
        Request.call ⟨operation, .sorted⟩))
    (by rw [count]; decide)
  exact ⟨numbers, fun now => booked.2.2.2.2.2.2 .sorted 1 "sfu" _ now
    (by decide +kernel)⟩

end V2
end Signaling
