import Signaling.Collider.Turns

/-!
# Every response answers a command, and no command is answered twice

The weights of the responses that name a request, of the answers that wait in
the queue of the V2 table and of the records of its rooms never exceed the
weight of the commands with that request id. A tariff that counts gives that
nobody is answered twice; one that looks at the kind of a result gives that the
answer is of the kind of its command.
-/

namespace Signaling
namespace Collider

open V2 (RequestKind paid share)

/-- The command of the authority that a call carries out. -/
def Call.commands (call : Call) : List AuthorityCommand :=
  match call.operation with
  | .handleWrite command => [command]
  | _ => []

/-- The commands of a history, oldest first. -/
def commanded : History -> List AuthorityCommand
  | [] => []
  | (_, call) :: earlier => commanded earlier ++ call.commands

/-- The responses that a history has handed to the driver, oldest first. -/
def answered
    (decode : String -> Except String WsClientMsg) :
    History -> List AuthorityResponse
  | [] => []
  | (collider, call) :: earlier =>
      answered decode earlier ++ collider.responses decode call

/-- The end answers nobody. -/
theorem responses_of_close
    (decode : String -> Except String WsClientMsg)
    (collider : Collider)
    {call : Call}
    (ended : call.operation = .close) :
    collider.responses decode call = [] := by
  have kept : (collider.step decode call).authorityResponses =
      collider.authorityResponses := by
    simp only [step, ended, close]
    refine (Mute.foldl (fun collider connectionId => ?_) _ collider).responses
    exact ⟨rfl, rfl⟩
  simp [responses, ended, kept]

/-- What commands are charged and what their results cost at most. -/
structure Tariff where
  charge : AuthorityOperation -> Nat
  price : AuthorityResult -> Nat
  weight : RequestKind -> Nat
  /-- A result costs no more than its operation is charged. -/
  fair : ∀ operation result, operation.Yields result ->
    price result ≤ charge operation
  admission : ∀ roomId clientId token now,
    charge (.admitV2 roomId clientId token now) = weight .admission
  removal : ∀ roomId clientId token,
    charge (.removeV2 roomId clientId token) = weight .removal

namespace Tariff

variable (tariff : Tariff) (requestId : RequestId)

/-- What the responses to the request cost. -/
def earned (responses : List AuthorityResponse) : Nat :=
  (responses.map fun response =>
    if response.requestId = requestId then tariff.price response.result
    else 0).sum

/-- What the commands with the request id are charged. -/
def charged (commands : List AuthorityCommand) : Nat :=
  (commands.map fun command =>
    if command.requestId = requestId then tariff.charge command.operation
    else 0).sum

/-- What the responses to the request would cost that the V2 table still owes,
in its queue and in the records of its rooms. -/
def owed (table : V2.RoomTable) : Nat :=
  paid requestId tariff.weight table.actions +
    table.debt requestId tariff.weight

variable {tariff requestId}

@[simp] theorem earned_append (first second : List AuthorityResponse) :
    tariff.earned requestId (first ++ second) =
      tariff.earned requestId first + tariff.earned requestId second := by
  simp [earned]

@[simp] theorem charged_append (first second : List AuthorityCommand) :
    tariff.charged requestId (first ++ second) =
      tariff.charged requestId first + tariff.charged requestId second := by
  simp [charged]

/-- The response that an action becomes costs no more than the action pays. -/
theorem earned_response_le (action : V2.Action) :
    tariff.earned requestId action.response?.toList ≤
      action.pays requestId tariff.weight := by
  have admission (result : AuthorityResult)
      (yields : ∀ roomId clientId token now, (AuthorityOperation.admitV2 roomId
        clientId token now).Yields result) :
      tariff.price result ≤ tariff.weight .admission := by
    rw [← tariff.admission 0 0 "" 0]
    exact tariff.fair _ _ (yields 0 0 "" 0)
  have removal (result : AuthorityResult)
      (yields : ∀ roomId clientId token, (AuthorityOperation.removeV2 roomId
        clientId token).Yields result) :
      tariff.price result ≤ tariff.weight .removal := by
    rw [← tariff.removal 0 0 ""]
    exact tariff.fair _ _ (yields 0 0 "")
  cases action with
  | sfu | deliver | upgraded | downgraded | roomFailed =>
      simp [V2.Action.response?, earned]
  | admissionCompleted requested result =>
      by_cases same : requested = requestId
      · cases result with
        | ok completed =>
            simpa [V2.Action.response?, V2.Action.pays, earned, share, same]
              using admission (admissionResult completed) fun _ _ _ _ => trivial
        | error error =>
            simpa [V2.Action.response?, V2.Action.pays, earned, share, same]
              using admission (.error error) fun _ _ _ _ => trivial
      · cases result <;> simp [V2.Action.response?, earned, same]
  | removalCompleted requested roomId clientId result =>
      by_cases same : requested = requestId
      · cases result with
        | ok =>
            simpa [V2.Action.response?, V2.Action.pays, earned, share, same]
              using removal .removedV2 fun _ _ _ => trivial
        | error error =>
            simpa [V2.Action.response?, V2.Action.pays, earned, share, same]
              using removal (.error error) fun _ _ _ => trivial
      · cases result <;> simp [V2.Action.response?, earned, same]

theorem earned_responses_le (actions : List V2.Action) :
    tariff.earned requestId (actions.filterMap (·.response?)) ≤
      paid requestId tariff.weight actions := by
  induction actions with
  | nil => simp [earned]
  | cons action actions inductionHypothesis =>
      have first := @earned_response_le tariff requestId action
      have split : (action :: actions).filterMap (·.response?) =
          action.response?.toList ++ actions.filterMap (·.response?) := by
        cases answer : action.response? <;> simp [answer]
      rw [split, earned_append, V2.paid_cons]
      omega

/-- The request that an input puts to the V2 table is charged with its command.
-/
theorem borrows_le
    {input : V2.Call}
    {command : AuthorityCommand}
    (requests : input.Requests command) :
    V2.Call.borrows requestId tariff.weight input ≤
      tariff.charged requestId [command] := by
  obtain ⟨requested, operation⟩ := command
  cases operation with
  | admitV2 roomId clientId token now =>
      simp only [V2.Call.Requests] at requests
      simp [V2.Call.borrows, requests, charged, share, tariff.admission]
  | removeV2 roomId clientId token =>
      simp only [V2.Call.Requests] at requests
      simp [V2.Call.borrows, requests, charged, share, tariff.removal]
  | _ => exact requests.elim

/-- What an input of the V2 table makes it owe is what it requests. -/
theorem owed_step_le
    {table : V2.RoomTable}
    {input : V2.Call}
    (consistent : table.Consistent)
    (appends : input.operation ≠ .pollAction) :
    tariff.owed requestId (table.step input) ≤
      tariff.owed requestId table +
        V2.Call.borrows requestId tariff.weight input := by
  have settled := @V2.RoomTable.Consistent.settles requestId tariff.weight _ _
    consistent appends
  rw [owed, owed, consistent.appended appends, V2.paid_append]
  omega

/-- A request that is answered at once leaves nothing owed. -/
theorem owed_settled_le
    {table : V2.RoomTable}
    {input : V2.Call}
    (consistent : table.Consistent)
    (appends : input.operation ≠ .pollAction)
    (settled : ¬input.Waits table) :
    tariff.owed requestId (table.step input) ≤ tariff.owed requestId table := by
  have answered := @V2.RoomTable.Consistent.settles_answered requestId
    tariff.weight _ _ consistent appends settled
  rw [owed, owed, consistent.appended appends, V2.paid_append]
  omega

theorem requests_appends
    {input : V2.Call}
    {command : AuthorityCommand}
    (requests : input.Requests command) :
    input.operation ≠ .pollAction := by
  unfold V2.Call.Requests at requests
  split at requests
  · simp [requests]
  · simp [requests]
  · exact requests.elim

/-- What a call answers at once and makes the V2 table owe is what its command
is charged. -/
theorem Turn.owed_le
    {collider : Collider}
    {call : Call}
    {table : V2.RoomTable}
    {answers : List AuthorityResponse}
    (turn : collider.Turn call table answers)
    (consistent : collider.v2Rooms.Consistent) :
    tariff.earned requestId answers + tariff.owed requestId table ≤
      tariff.owed requestId collider.v2Rooms +
        tariff.charged requestId call.commands := by
  have immediate {command : AuthorityCommand} {result : AuthorityResult}
      (yields : command.operation.Yields result) :
      tariff.earned requestId [⟨command.requestId, result⟩] ≤
        tariff.charged requestId [command] := by
    have fair := tariff.fair _ _ yields
    by_cases same : command.requestId = requestId
    · simpa [earned, charged, same] using fair
    · simp [earned, same]
  cases turn with
  | rest => simp [earned]
  | input input unasked told =>
      have appends : input.operation ≠ .pollAction := by
        intro polls
        rw [polls] at unasked
        exact unasked
      have unborrowed : V2.Call.borrows requestId tariff.weight input = 0 := by
        unfold V2.Call.borrows
        unfold V2.Operation.Unasked at unasked
        split at unasked <;> simp_all
      have stepped := @owed_step_le tariff requestId _ _ consistent appends
      simp only [earned, List.map_nil, List.sum_nil]
      omega
  | answer asked yields elsewhere =>
      have fair := immediate yields
      simp only [Call.commands, asked]
      omega
  | settle asked requests settled yields completes =>
      have fair := immediate yields
      have stepped := @owed_settled_le tariff requestId _ _ consistent
        (requests_appends requests) settled
      simp only [Call.commands, asked]
      omega
  | wait asked requests waits =>
      have borrowed := @borrows_le tariff requestId _ _ requests
      have stepped := @owed_step_le tariff requestId _ _ consistent
        (requests_appends requests)
      simp only [Call.commands, asked, earned, List.map_nil, List.sum_nil]
      omega

/-- Carrying actions out earns no more than it settles. -/
theorem Turned.earned_le
    {collider after : Collider}
    {call : Call}
    {table : V2.RoomTable}
    {answers : List AuthorityResponse}
    (turned : collider.Turned call table answers after) :
    tariff.earned requestId (after.authorityResponses.drop
        collider.authorityResponses.length) +
        tariff.owed requestId after.v2Rooms ≤
      tariff.earned requestId answers + tariff.owed requestId table := by
  obtain ⟨done, left, split, -, v2Rooms, responses⟩ := turned.carried
  have carried := @earned_responses_le tariff requestId done
  have same : ({ table with actions := left } : V2.RoomTable).debt requestId
      tariff.weight = table.debt requestId tariff.weight := rfl
  rw [responses, List.append_assoc, List.drop_left, earned_append, v2Rooms,
    owed, owed, split, V2.paid_append, same]
  dsimp only
  omega

/-- A call earns and leaves owed no more than was owed and what it is charged.
-/
theorem step_le
    (decode : String -> Except String WsClientMsg)
    {collider : Collider}
    (consistent : collider.v2Rooms.Consistent)
    (call : Call) :
    tariff.earned requestId (collider.responses decode call) +
        tariff.owed requestId (collider.step decode call).v2Rooms ≤
      tariff.owed requestId collider.v2Rooms +
        tariff.charged requestId call.commands := by
  by_cases polled : call.operation = .pollEvent
  · simp [responses, polled, step, pollEvent, earned]
  by_cases ended : call.operation = .close
  · have nothing : (collider.step decode call).v2Rooms =
        collider.v2Rooms.clear := by
      simp [step, ended, close]
    have silent := responses_of_close decode collider ended
    simp [nothing, silent, earned, owed, V2.RoomTable.clear, V2.RoomTable.debt,
      tally_empty]
  obtain ⟨table, answers, turn, turned⟩ := step_turns decode collider call
    polled ended
  have asked := @Turn.owed_le tariff requestId _ _ _ _ turn consistent
  have carried := @Turned.earned_le tariff requestId _ _ _ _ _ turned
  have handed : collider.responses decode call =
      (collider.step decode call).authorityResponses.drop
        collider.authorityResponses.length := by
    simp [responses]
  rw [handed]
  omega

/-- What was earned and is still owed never exceeds what was charged. -/
theorem earned_le_charged
    {decode : String -> Except String WsClientMsg}
    {registerTimeout : Duration}
    {history : History}
    {collider : Collider}
    (run : (machine decode registerTimeout).Run history collider) :
    tariff.earned requestId (answered decode history) +
        tariff.owed requestId collider.v2Rooms ≤
      tariff.charged requestId (commanded history) := by
  induction run with
  | start starts =>
      obtain rfl : _ = new registerTimeout := starts
      simp [answered, earned, owed, V2.RoomTable.debt, tally_empty]
  | @next history collider call run inductionHypothesis =>
      have consistent := (consistent_of_reachable (fun _ => True) trivial
        (fun _ _ _ _ => trivial) (fun _ _ => trivial) ⟨_, run⟩).2.1
      have stepped := @step_le tariff requestId decode collider consistent call
      simp only [answered, commanded, earned_append, charged_append]
      have next : (machine decode registerTimeout).next collider call =
          collider.step decode call := rfl
      rw [next]
      omega

end Tariff

/-- Counts every response. -/
def counting : Tariff where
  charge := fun _ => 1
  price := fun _ => 1
  weight := fun _ => 1
  fair := fun _ _ _ => Nat.le_refl 1
  admission := fun _ _ _ _ => rfl
  removal := fun _ _ _ => rfl

open Classical in
/-- Counts the responses with one result, and charges the operations that can
have it. -/
noncomputable def pricing (result : AuthorityResult) : Tariff where
  charge := fun operation => if operation.Yields result then 1 else 0
  price := fun other => if other = result then 1 else 0
  weight := fun
    | .admission =>
        if (AuthorityOperation.admitV2 0 0 "" 0).Yields result then 1 else 0
    | .removal =>
        if (AuthorityOperation.removeV2 0 0 "").Yields result then 1 else 0
  fair := by
    intro operation other yields
    split
    · next same => simp [same ▸ yields]
    · exact Nat.zero_le _
  admission := fun _ _ _ _ => by cases result <;> rfl
  removal := fun _ _ _ => by cases result <;> rfl

theorem counting_earned
    (requestId : RequestId)
    (responses : List AuthorityResponse) :
    counting.earned requestId responses =
      (responses.map (·.requestId)).count requestId := by
  induction responses with
  | nil => rfl
  | cons response responses inductionHypothesis =>
      simp only [Tariff.earned, counting, List.map_cons, List.sum_cons,
        List.count_cons, beq_iff_eq] at inductionHypothesis ⊢
      omega

theorem counting_charged
    (requestId : RequestId)
    (commands : List AuthorityCommand) :
    counting.charged requestId commands =
      (commands.map (·.requestId)).count requestId := by
  induction commands with
  | nil => rfl
  | cons command commands inductionHypothesis =>
      simp only [Tariff.charged, counting, List.map_cons, List.sum_cons,
        List.count_cons, beq_iff_eq] at inductionHypothesis ⊢
      omega

/-- In every run, no request id occurs in more responses than commands, and every
response has the id of a command given before whose operation can have the
result. So when the authority never uses a request id twice, every command is
answered at most once, and with a result of its own kind. -/
theorem responses_answer_commands
    {decode : String -> Except String WsClientMsg}
    {registerTimeout : Duration}
    {history : History}
    {collider : Collider}
    (run : (machine decode registerTimeout).Run history collider) :
    (∀ requestId,
      ((answered decode history).map (·.requestId)).count requestId ≤
        ((commanded history).map (·.requestId)).count requestId) ∧
    ∀ response ∈ answered decode history, ∃ command ∈ commanded history,
      command.requestId = response.requestId ∧
        command.operation.Yields response.result := by
  constructor
  · intro requestId
    rw [← counting_earned, ← counting_charged]
    exact (Nat.le_add_right _ _).trans
      (@Tariff.earned_le_charged counting requestId _ _ _ _ run)
  · intro response given
    have within := @Tariff.earned_le_charged (pricing response.result)
      response.requestId _ _ _ _ run
    have earned : 0 < (pricing response.result).earned response.requestId
        (answered decode history) := by
      rw [Tariff.earned, List.sum_pos_iff_exists_pos_nat]
      exact ⟨_, List.mem_map_of_mem given, by simp [pricing]⟩
    have charged : 0 < (pricing response.result).charged response.requestId
        (commanded history) := by omega
    rw [Tariff.charged, List.sum_pos_iff_exists_pos_nat] at charged
    obtain ⟨amount, listed, positive⟩ := charged
    obtain ⟨command, commanded, rfl⟩ := List.mem_map.1 listed
    refine ⟨command, commanded, ?_⟩
    simp only [pricing] at positive
    split at positive
    · next same =>
        split at positive
        · next yields => exact ⟨same, yields⟩
        · exact absurd positive (Nat.lt_irrefl 0)
    · exact absurd positive (Nat.lt_irrefl 0)

/-- The call of the driver that puts an input to the V2 table. -/
def driving : V2.Operation -> Option Operation
  | .admitClient requestId now roomId clientId token =>
      some (.handleWrite ⟨requestId, .admitV2 roomId clientId token now⟩)
  | .remove requestId roomId clientId token =>
      some (.handleWrite ⟨requestId, .removeV2 roomId clientId token⟩)
  | .handleSfuInput input => some (.handleSfuInput input)
  | .handleTimeout now => some (.handleTimeout now)
  | _ => none

/-- The third admission is answered when the worker has confirmed every join. -/
theorem responses_answer_commands_forwarded :
    (answered (fun _ => .error "") (played (fun _ => .error "") 0
      (V2.forwardedOperations.filterMap driving)).1).map (·.requestId) =
        [1, 2, 3] ∧
      ∃ command ∈ commanded (played (fun _ => .error "") 0
          (V2.forwardedOperations.filterMap driving)).1,
        command.requestId = 3 ∧
          command.operation.Yields (.admittedV2 .sfu 1 "third" none) := by
  obtain ⟨-, caused⟩ := responses_answer_commands (played_run
    (fun _ => .error "") 0 (V2.forwardedOperations.filterMap driving))
  refine ⟨by decide +kernel, caused ⟨3, .admittedV2 .sfu 1 "third" none⟩ ?_⟩
  decide +kernel

end Collider
end Signaling
