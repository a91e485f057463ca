import Mathlib.Logic.Relation

/-!
# Deterministic machines and their runs

A machine takes a state and an input to the next state. A run is recorded as
its history: the pairs of a state and the input taken there, newest first. The
rules below derive facts about all runs from facts about one step, optionally
under a guard that every step of the run meets.
-/

namespace Signaling

universe u v

/-- A deterministic machine over states `σ` and inputs `α`. -/
structure Machine (σ : Type u) (α : Type v) where
  /-- The states in which a run may start. -/
  init : σ -> Prop
  /-- The state after one input. -/
  next : σ -> α -> σ

namespace Machine

variable {σ : Type u} {α : Type v} {machine : Machine σ α}

/-- `machine.Run history state` holds when `history` leads to `state`. -/
inductive Run (machine : Machine σ α) : List (σ × α) -> σ -> Prop
  | start {state : σ} :
      machine.init state ->
      Run machine [] state
  | next {history : List (σ × α)} {state : σ} (input : α) :
      Run machine history state ->
      Run machine ((state, input) :: history) (machine.next state input)

/-- A state that some run reaches. -/
def Reachable (machine : Machine σ α) (state : σ) : Prop :=
  ∃ history, machine.Run history state

/-- Every step of a history was taken in a state and on an input that meet the
guard. -/
def Guarded (guard : σ -> α -> Prop) (history : List (σ × α)) : Prop :=
  ∀ event ∈ history, guard event.1 event.2

theorem Guarded.head
    {guard : σ -> α -> Prop}
    {state : σ}
    {input : α}
    {history : List (σ × α)}
    (guarded : Guarded guard ((state, input) :: history)) :
    guard state input :=
  guarded (state, input) List.mem_cons_self

theorem Guarded.tail
    {guard : σ -> α -> Prop}
    {event : σ × α}
    {history : List (σ × α)}
    (guarded : Guarded guard (event :: history)) :
    Guarded guard history :=
  fun earlier present => guarded earlier (List.mem_cons_of_mem _ present)

/-- The part of a guarded history before some step is guarded. -/
theorem Guarded.older
    {guard : σ -> α -> Prop}
    {newer older : List (σ × α)}
    (guarded : Guarded guard (newer ++ older)) :
    Guarded guard older :=
  fun earlier present => guarded earlier (List.mem_append_right _ present)

/-- A fact about a history and the state it leads to holds of every guarded run
when it holds at the start and one guarded step preserves it. -/
theorem Run.history_invariant
    {guard : σ -> α -> Prop}
    (invariant : List (σ × α) -> σ -> Prop)
    (initial : ∀ state, machine.init state -> invariant [] state)
    (step : ∀ history state input,
      machine.Run history state -> guard state input ->
      invariant history state ->
      invariant ((state, input) :: history) (machine.next state input))
    {history : List (σ × α)}
    {state : σ}
    (run : machine.Run history state)
    (guarded : Guarded guard history) :
    invariant history state := by
  induction run with
  | start starts => exact initial _ starts
  | next input run inductionHypothesis =>
      exact step _ _ input run guarded.head (inductionHypothesis guarded.tail)

/-- A fact about states holds along every guarded run when it holds at the
start and one guarded step preserves it. -/
theorem Run.invariant
    {guard : σ -> α -> Prop}
    {invariant : σ -> Prop}
    (initial : ∀ state, machine.init state -> invariant state)
    (step : ∀ state input, guard state input -> invariant state ->
      invariant (machine.next state input))
    {history : List (σ × α)}
    {state : σ}
    (run : machine.Run history state)
    (guarded : Guarded guard history) :
    invariant state :=
  run.history_invariant (fun _ state => invariant state) initial
    (fun _ state input _ guard holds => step state input guard holds) guarded

/-- A fact about states that every step preserves holds of every reachable
state. -/
theorem Reachable.invariant
    {invariant : σ -> Prop}
    (initial : ∀ state, machine.init state -> invariant state)
    (step : ∀ state input, invariant state ->
      invariant (machine.next state input))
    {state : σ}
    (reachable : machine.Reachable state) :
    invariant state := by
  obtain ⟨history, run⟩ := reachable
  have free : Guarded (fun _ _ => True) history := fun _ _ => trivial
  exact run.invariant initial
    (fun state input _ holds => step state input holds) free

/-- The history before a step of a run is itself a run. -/
theorem Run.before
    {newer older : List (σ × α)}
    {earlier state : σ}
    {input : α}
    (run : machine.Run (newer ++ (earlier, input) :: older) state) :
    machine.Run older earlier := by
  generalize split : newer ++ (earlier, input) :: older = history at run
  induction run generalizing newer with
  | start starts => simp at split
  | next last run inductionHypothesis =>
      cases newer with
      | nil =>
          simp only [List.nil_append, List.cons.injEq, Prod.mk.injEq] at split
          obtain ⟨⟨rfl, rfl⟩, rfl⟩ := split
          exact run
      | cons event newer =>
          simp only [List.cons_append, List.cons.injEq] at split
          exact inductionHypothesis split.2

/-- Each step of a run was taken in a state that an initial part of the run
reaches. -/
theorem Run.at_step
    {history : List (σ × α)}
    {state earlier : σ}
    {input : α}
    (run : machine.Run history state)
    (taken : (earlier, input) ∈ history) :
    ∃ newer older, history = newer ++ (earlier, input) :: older ∧
      machine.Run older earlier := by
  obtain ⟨newer, older, rfl⟩ := List.append_of_mem taken
  exact ⟨newer, older, rfl, run.before⟩

/-- Continue a history and its state by a list of inputs. -/
def play
    (machine : Machine σ α)
    (history : List (σ × α))
    (state : σ) :
    List α -> List (σ × α) × σ
  | [] => (history, state)
  | input :: inputs =>
      machine.play ((state, input) :: history) (machine.next state input)
        inputs

theorem Run.play
    {history : List (σ × α)}
    {state : σ}
    (run : machine.Run history state)
    (inputs : List α) :
    machine.Run (machine.play history state inputs).1
      (machine.play history state inputs).2 := by
  induction inputs generalizing history state with
  | nil => exact run
  | cons input inputs inductionHypothesis =>
      exact inductionHypothesis (run.next input)

/-- What is played does not depend on the history before it. -/
theorem play_append
    (history : List (σ × α))
    (state : σ)
    (inputs : List α) :
    machine.play history state inputs =
      ((machine.play [] state inputs).1 ++ history,
        (machine.play [] state inputs).2) := by
  induction inputs generalizing history state with
  | nil => rfl
  | cons input inputs inductionHypothesis =>
      rw [play, inductionHypothesis, play,
        inductionHypothesis [(state, input)]]
      simp

/-- Inputs that meet the guard in every state keep a history guarded. -/
theorem Guarded.play
    {guard : σ -> α -> Prop}
    {history : List (σ × α)}
    (guarded : Guarded guard history)
    (state : σ)
    (inputs : List α)
    (always : ∀ input ∈ inputs, ∀ state, guard state input) :
    Guarded guard (machine.play history state inputs).1 := by
  induction inputs generalizing history state with
  | nil => exact guarded
  | cons input inputs inductionHypothesis =>
      refine inductionHypothesis (fun event present => ?_) _
        fun later listed => always later (List.mem_cons_of_mem _ listed)
      rcases List.mem_cons.1 present with rfl | earlier
      · exact always input List.mem_cons_self state
      · exact guarded event earlier

/-- A sequence of states whose rank falls as long as they are not settled has a
settled state within the rank of its first. -/
theorem settles_within_rank
    {states : Nat -> σ}
    (settled : σ -> Prop)
    (rank : σ -> Nat)
    (descends : ∀ index, ¬settled (states index) ->
      rank (states (index + 1)) < rank (states index)) :
    ∃ index ≤ rank (states 0), settled (states index) := by
  generalize bound : rank (states 0) = steps
  induction steps using Nat.strongRecOn generalizing states with
  | ind steps inductionHypothesis =>
      by_cases here : settled (states 0)
      · exact ⟨0, Nat.zero_le _, here⟩
      · have fewer := descends 0 here
        rw [bound] at fewer
        obtain ⟨index, within, reached⟩ := inductionHypothesis _ fewer
          (fun index restless => descends (index + 1) restless) rfl
        exact ⟨index + 1, by omega, reached⟩

end Machine

end Signaling
