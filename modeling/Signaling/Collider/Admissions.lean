import Signaling.Collider.Answers
import Signaling.Collider.Registrations
import Signaling.V2.Admissions

/-!
# Admissions are answered truly

Whoever is told of an admission is told of the one that it asked for: the answer
carries the token of the command, and the mode, the epoch and the role that the
new member has at that moment, also when a worker had to confirm first.
-/

namespace Signaling
namespace Collider

/-- The authority has asked for the admission of the client with the token. -/
def Asked
    (history : History)
    (requestId : RequestId)
    (roomId : V2.RoomId)
    (clientId : V2.ClientId)
    (token : String) : Prop :=
  ∃ now, ⟨requestId, .admitV2 roomId clientId token now⟩ ∈ commanded history

theorem Asked.later
    {history : History}
    {requestId : RequestId}
    {roomId : V2.RoomId}
    {clientId : V2.ClientId}
    {token : String}
    (asked : Asked history requestId roomId clientId token)
    (event : Collider × Call) :
    Asked (event :: history) requestId roomId clientId token := by
  obtain ⟨now, listed⟩ := asked
  exact ⟨now, List.mem_append_left _ listed⟩

/-- What a call puts to the V2 table is an admission only if the call is the
command to admit. -/
theorem Turn.asks
    {collider : Collider}
    {call : Call}
    {table : V2.RoomTable}
    {answers : List AuthorityResponse}
    (turn : collider.Turn call table answers) :
    table = collider.v2Rooms ∨
      ∃ input : V2.Call, table = collider.v2Rooms.step input ∧
        input.operation ≠ .pollAction ∧
        (∀ heard, input.operation = .handleSfuInput heard ->
          call.operation = .handleSfuInput heard ∧
            input.order = call.order.v2) ∧
        ∀ requestId now roomId clientId token,
          input.operation = .admitClient requestId now roomId clientId token ->
          call.operation =
            .handleWrite ⟨requestId, .admitV2 roomId clientId token now⟩ := by
  have requested {command : AuthorityCommand} {input : V2.Call}
      (asked : call.operation = .handleWrite command)
      (requests : input.Requests command) :
      input.operation ≠ .pollAction ∧
        (∀ heard, input.operation = .handleSfuInput heard ->
          call.operation = .handleSfuInput heard ∧
            input.order = call.order.v2) ∧
        ∀ requestId now roomId clientId token,
          input.operation = .admitClient requestId now roomId clientId token ->
          call.operation =
            .handleWrite ⟨requestId, .admitV2 roomId clientId token now⟩ := by
    obtain ⟨requestId, operation⟩ := command
    unfold V2.Call.Requests at requests
    split at requests
    · next admits =>
        obtain rfl : operation = _ := admits
        refine ⟨by simp [requests], by simp [requests], ?_⟩
        intro _ _ _ _ _ same
        rw [requests] at same
        cases same
        exact asked
    · refine ⟨by simp [requests], by simp [requests], ?_⟩
      intro _ _ _ _ _ same
      rw [requests] at same
      cases same
    · exact requests.elim
  cases turn with
  | rest | answer => exact .inl rfl
  | input input unasked told =>
      refine .inr ⟨input, rfl, ?_, told, ?_⟩
      · intro polls
        rw [polls] at unasked
        exact unasked
      · intro _ _ _ _ _ admits
        rw [admits] at unasked
        exact unasked.elim
  | settle asked requests => exact .inr ⟨_, rfl, requested asked requests⟩
  | wait asked requests => exact .inr ⟨_, rfl, requested asked requests⟩

/-- What the rooms of the V2 table wait for has been asked for. -/
theorem traced_of_run
    {decode : String -> Except String WsClientMsg}
    {registerTimeout : Duration}
    {history : History}
    {collider : Collider}
    (run : (machine decode registerTimeout).Run history collider) :
    collider.v2Rooms.Traced (Asked history) := by
  induction run with
  | start starts =>
      obtain rfl : _ = new registerTimeout := starts
      intro roomId room requestId clientId found
      simp at found
  | @next history collider call run traced =>
      have later : collider.v2Rooms.Traced (Asked ((collider, call) :: history)) := by
        intro roomId room requestId clientId found waits
        obtain ⟨token, asked, holds⟩ := traced roomId room _ _ found waits
        exact ⟨token, asked.later _, holds⟩
      have consistent := (serves_of_run run).1.consistent
      by_cases polled : call.operation = .pollEvent
      · have same : (collider.step decode call).v2Rooms = collider.v2Rooms := by
          simp [step, polled, pollEvent]
        change (collider.step decode call).v2Rooms.Traced _
        rw [same]
        exact later
      by_cases ended : call.operation = .close
      · intro roomId room requestId clientId found
        have cleared : (collider.step decode call).v2Rooms =
            collider.v2Rooms.clear := by
          simp [step, ended, close]
        change (collider.step decode call).v2Rooms.rooms[roomId]? = _ at found
        rw [cleared] at found
        simp [V2.RoomTable.clear] at found
      obtain ⟨table, answers, turn, turned⟩ := step_turns decode collider call
        polled ended
      obtain ⟨done, left, -, -, v2Rooms, -⟩ := turned.carried
      have stepped : table.Traced (Asked ((collider, call) :: history)) := by
        rcases turn.asks with rfl | ⟨input, rfl, -, -, admits⟩
        · exact later
        · refine consistent.traced later ?_
          intro requestId now roomId clientId token asked
          refine ⟨now, List.mem_append_right _ ?_⟩
          simp [Call.commands, admits _ _ _ _ _ asked]
      change (collider.step decode call).v2Rooms.Traced _
      rw [v2Rooms]
      exact stepped

/-- A worker confirms a join into a V2 room that is not forwarded, or that waits
for the join of somebody else. -/
def JoinsAstray (collider : Collider) (call : Call) : Prop :=
  ∃ input, call.operation = .handleSfuInput input ∧
    V2.Call.JoinsAstray ⟨.handleSfuInput input, call.order.v2⟩ collider.v2Rooms

/-- An answer that is given at once is true. -/
theorem Turn.answers_hold
    {collider : Collider}
    {call : Call}
    {table : V2.RoomTable}
    {answers : List AuthorityResponse}
    {requestId : RequestId}
    {admission : V2.Admission}
    (turn : collider.Turn call table answers)
    (answered : ⟨requestId, admissionResult admission⟩ ∈ answers) :
    ∃ roomId clientId now,
      call.operation = .handleWrite ⟨requestId,
        .admitV2 roomId clientId admission.admissionToken now⟩ ∧
      admission.Holds table.rooms[roomId]? clientId := by
  cases turn with
  | rest | input | wait => cases answered
  | answer asked yields elsewhere =>
      rename_i command result
      cases List.mem_singleton.1 answered
      cases operation : command.operation with
      | admitV2 => exact absurd operation (elsewhere _ _ _ _)
      | _ =>
          rw [operation] at yields
          exact yields.elim
  | settle asked requests settled yields completes =>
      rename_i command result input
      cases List.mem_singleton.1 answered
      obtain ⟨requestId, operation⟩ := command
      cases operation with
      | admitV2 roomId clientId token now =>
          have admits : input.operation =
              .admitClient requestId now roomId clientId token := requests
          have completed : (collider.v2Rooms.admitClient requestId now roomId
              clientId token).1 = .ok (.complete admission) := completes
          obtain ⟨rfl, holds⟩ := V2.RoomTable.admitClient_holds
            (Prod.ext completed rfl)
          refine ⟨roomId, clientId, now, asked, ?_⟩
          simp only [V2.RoomTable.step, admits]
          exact holds
      | _ => exact yields.elim

/-- In every run, whenever the authority is told that a V2 client is admitted,
it has asked for this with the very token that the answer carries, and after the
call the client is a member of the room under this token, the room has the mode
and the epoch of the answer, and the client has the role of the answer. The one
exception is a call by which a worker confirms a join into a room that is not
forwarded, or that waits for somebody else. -/
theorem admissions_answered_truly
    {decode : String -> Except String WsClientMsg}
    {registerTimeout : Duration}
    {history : History}
    {collider : Collider}
    (run : (machine decode registerTimeout).Run history collider)
    (call : Call)
    (straight : ¬collider.JoinsAstray call)
    {requestId : RequestId}
    {admission : V2.Admission}
    (answered : ⟨requestId, admissionResult admission⟩ ∈
      collider.responses decode call) :
    ∃ roomId clientId,
      Asked ((collider, call) :: history) requestId roomId clientId
        admission.admissionToken ∧
      admission.Holds (collider.step decode call).v2Rooms.rooms[roomId]?
        clientId := by
  by_cases polled : call.operation = .pollEvent
  · simp [responses, polled] at answered
  by_cases ended : call.operation = .close
  · rw [responses_of_close decode collider ended] at answered
    cases answered
  obtain ⟨table, answers, turn, turned⟩ := step_turns decode collider call
    polled ended
  obtain ⟨done, left, split, -, v2Rooms, handed⟩ := turned.carried
  have given : collider.responses decode call =
      answers ++ done.filterMap (·.response?) := by
    have whole : collider.responses decode call =
        (collider.step decode call).authorityResponses.drop
          collider.authorityResponses.length := by
      simp [responses]
    rw [whole, handed, List.append_assoc, List.drop_left]
  rw [given] at answered
  rw [v2Rooms]
  rcases List.mem_append.1 answered with direct | deferred
  · obtain ⟨roomId, clientId, now, asked, holds⟩ := turn.answers_hold direct
    refine ⟨roomId, clientId, ⟨now, List.mem_append_right _ ?_⟩, holds⟩
    simp [Call.commands, asked]
  obtain ⟨serves, reported⟩ := serves_of_run run
  obtain ⟨action, performed, responds⟩ := List.mem_filterMap.1 deferred
  obtain rfl : action = .admissionCompleted requestId (.ok admission) := by
    cases action with
    | admissionCompleted asked result =>
        cases result with
        | ok completed =>
            obtain ⟨mode, signalEpoch, admissionToken, isInitiator⟩ := completed
            cases responds
            rfl
        | error error => cases responds
    | removalCompleted asked roomId clientId result =>
        cases result <;> cases responds
    | _ => cases responds
  have listed : .admissionCompleted requestId (.ok admission) ∈
      table.actions := split ▸ List.mem_append_left _ performed
  rcases turn.asks with rfl | ⟨input, rfl, appends, told, -⟩
  · exact (reported _ listed trivial).elim
  rw [serves.consistent.appended appends] at listed
  have new := (List.mem_append.1 listed).resolve_left
    fun old => reported _ old trivial
  have onward : ¬input.JoinsAstray collider.v2Rooms := by
    intro astray
    have heard := astray
    obtain ⟨_, _, _, _, _, _, _, _, _, ⟨_, ⟨_, _, heard, -⟩, -⟩, -⟩ := heard
    obtain ⟨same, order⟩ := told _ heard
    refine straight ⟨_, same, ?_⟩
    rwa [← order, ← heard]
  obtain ⟨roomId, room, clientId, found, waits, ⟨member, present, token⟩,
    holds⟩ := serves.consistent.admission_holds onward appends new
  obtain ⟨given, asked, same⟩ := traced_of_run run roomId room _ _ found waits
  obtain rfl := (same member present).symm.trans token
  exact ⟨roomId, clientId, asked.later _, holds⟩

/-- The third member of an upgrade waits for its worker. -/
def almostForwarded : History × Collider :=
  played (fun _ => .error "") 0 ((V2.upgradingOperations ++
    [V2.joined 1 1 2, V2.joined 2 2 2]).filterMap driving)

/-- The worker confirms the third member. -/
def lastConfirmation : Call where
  operation := .handleSfuInput (.commandResult 1 "sfu" ⟨3,
    .ok (.memberJoined ⟨V2.exampleRoomId, 3, 1, 1⟩)⟩ 0)
  order := .sorted

theorem lastConfirmation_straight :
    ¬almostForwarded.2.JoinsAstray lastConfirmation := by
  rintro ⟨input, asked, _, _, _, _, _, _, _, _, _,
    ⟨_, ⟨_, _, same, -, outstanding⟩, -⟩, -⟩
  have recorded : almostForwarded.2.v2Rooms.pendingCommands[3]? =
      some (.upgradeJoin "sfu" V2.exampleRoomId 3 1 1) := by
    decide +kernel
  cases asked
  cases same
  cases recorded.symm.trans outstanding

/-- The third admission is answered with its token and the new epoch. -/
theorem admissions_answered_truly_forwarded :
    ∃ roomId clientId,
      Asked ((almostForwarded.2, lastConfirmation) :: almostForwarded.1) 3
        roomId clientId "third" ∧
      V2.Admission.Holds ⟨.sfu, 1, "third", none⟩
        (almostForwarded.2.step (fun _ => .error "")
          lastConfirmation).v2Rooms.rooms[roomId]? clientId :=
  @admissions_answered_truly _ _ _ _
    (played_run (fun _ => .error "") 0 ((V2.upgradingOperations ++
      [V2.joined 1 1 2, V2.joined 2 2 2]).filterMap driving))
    lastConfirmation lastConfirmation_straight 3 ⟨.sfu, 1, "third", none⟩
    (by decide +kernel)

end Collider
end Signaling
