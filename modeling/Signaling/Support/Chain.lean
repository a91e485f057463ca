import Mathlib.Logic.Relation

/-!
# Chains of labelled steps

A step relation whose steps carry labels, and the chains of steps whose labels
are allowed in the state where they are taken. An invariant of every allowed
step is an invariant of every chain.
-/

namespace Signaling

universe u v

/-- The states that `step` reaches by labels allowed where they are taken. -/
def Chain
    {σ : Type u}
    {label : Type v}
    (step : σ -> label -> σ -> Prop)
    (allowed : σ -> label -> Prop) : σ -> σ -> Prop :=
  Relation.ReflTransGen fun state next =>
    ∃ name, step state name next ∧ allowed state name

namespace Chain

variable
  {σ : Type u}
  {label : Type v}
  {step : σ -> label -> σ -> Prop}
  {allowed : σ -> label -> Prop}
  {first middle last : σ}

theorem refl : Chain step allowed first first :=
  Relation.ReflTransGen.refl

theorem single
    (name : label)
    (taken : step first name last)
    (permitted : allowed first name) :
    Chain step allowed first last :=
  Relation.ReflTransGen.single ⟨name, taken, permitted⟩

theorem trans
    (earlier : Chain step allowed first middle)
    (later : Chain step allowed middle last) :
    Chain step allowed first last :=
  Relation.ReflTransGen.trans earlier later

theorem tail
    {name : label}
    (earlier : Chain step allowed first middle)
    (taken : step middle name last)
    (permitted : allowed middle name) :
    Chain step allowed first last :=
  earlier.trans (single name taken permitted)

/-- A fact that every allowed step preserves holds along every chain. -/
theorem invariant
    (holds : σ -> Prop)
    (preserved : ∀ state name next, step state name next ->
      allowed state name -> holds state -> holds next)
    (chain : Chain step allowed first last)
    (initial : holds first) :
    holds last := by
  induction chain with
  | refl => exact initial
  | tail _ stepped inductionHypothesis =>
      obtain ⟨name, taken, permitted⟩ := stepped
      exact preserved _ name _ taken permitted inductionHypothesis

end Chain

end Signaling
