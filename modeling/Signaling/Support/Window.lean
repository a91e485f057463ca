import Mathlib.Data.List.Basic

/-!
# The latest entries of a stream

A window keeps the latest entries of a stream, up to a capacity. When every
entry was new to the window as it came, as many other entries as the window
holds lie between two equal ones.
-/

namespace Signaling

universe u

variable
  {α : Type u}
  {capacity : Nat}
  {stream before between after : List α}
  {entry : α}

/-- The latest entries of a stream, the oldest one first. -/
def latest (capacity : Nat) (stream : List α) : List α :=
  stream.drop (stream.length - capacity)

theorem latest_nil : latest capacity ([] : List α) = [] :=
  List.drop_nil

theorem length_latest_le (capacity : Nat) (stream : List α) :
    (latest capacity stream).length ≤ capacity := by
  rw [latest, List.length_drop]
  omega

theorem length_latest (capacity : Nat) (stream : List α) :
    (latest capacity stream).length = min stream.length capacity := by
  rw [latest, List.length_drop]
  omega

/-- A new entry takes the place of the oldest one when the window is full. -/
theorem latest_append_one
    (capacity : Nat)
    (stream : List α)
    (entry : α) :
    latest capacity (stream ++ [entry]) =
      if (latest capacity stream ++ [entry]).length > capacity then
        (latest capacity stream ++ [entry]).tail
      else latest capacity stream ++ [entry] := by
  have extended (count : Nat) (within : count ≤ stream.length) :
      (stream ++ [entry]).drop count = stream.drop count ++ [entry] :=
    List.drop_append_of_le_length within
  have shift : (stream ++ [entry]).length - capacity =
      stream.length + 1 - capacity := by
    rw [List.length_append, List.length_singleton]
  rw [List.length_append, List.length_singleton, length_latest]
  simp only [latest, shift]
  split
  · next full =>
      rw [← extended _ (Nat.sub_le _ _), List.tail_drop]
      congr 1
      omega
  · next spare =>
      rw [← extended _ (Nat.sub_le _ _)]
      congr 1
      omega

/-- An entry stays in the window until enough others have followed it. -/
theorem mem_latest
    (few : between.length < capacity) :
    entry ∈ latest capacity (before ++ entry :: between) := by
  have kept : (before ++ entry :: between).length - capacity ≤
      before.length := by
    rw [List.length_append, List.length_cons]
    omega
  rw [latest, List.drop_append_of_le_length kept]
  exact List.mem_append_right _ List.mem_cons_self

/-- Every entry of the stream was new to the window when it came. -/
def Spaced (capacity : Nat) (stream : List α) : Prop :=
  ∀ before entry after, stream = before ++ entry :: after ->
    entry ∉ latest capacity before

namespace Spaced

theorem nil : Spaced capacity ([] : List α) := by
  intro before entry after split
  simp at split

theorem append_one
    (spaced : Spaced capacity stream)
    (new : entry ∉ latest capacity stream) :
    Spaced capacity (stream ++ [entry]) := by
  intro before other after split
  rcases List.eq_nil_or_concat after with rfl | ⟨rest, last, rfl⟩
  · obtain ⟨rfl, same⟩ := List.append_inj' split rfl
    cases same
    exact new
  · have shorter : stream ++ [entry] = (before ++ other :: rest) ++ [last] := by
      rw [split]
      simp
    obtain ⟨rfl, -⟩ := List.append_inj' shorter rfl
    exact spaced before other rest rfl

/-- Between two equal entries, the later of which was new to the window, the
window was filled with others. -/
theorem filled
    [DecidableEq α]
    (spaced : Spaced capacity (before ++ entry :: between))
    (new : entry ∉ latest capacity (before ++ entry :: between)) :
    capacity ≤ (between.filter (· ≠ entry)).length := by
  -- up to the next occurrence of the entry there are only others
  have others (first : List α) (absent : entry ∉ first)
      (gone : entry ∉ latest capacity (before ++ entry :: first)) :
      capacity ≤ (first.filter (· ≠ entry)).length := by
    have all : first.filter (· ≠ entry) = first :=
      List.filter_eq_self.2 fun other listed => by
        have apart : other ≠ entry := fun same => absent (same ▸ listed)
        simpa using apart
    rw [all]
    by_contra few
    exact gone (mem_latest (by omega))
  by_cases again : entry ∈ between
  · obtain ⟨first, rest, rfl, absent⟩ := List.eq_append_cons_of_mem again
    have enough := others first absent
      (spaced (before ++ entry :: first) entry rest (by simp))
    rw [List.filter_append, List.length_append]
    omega
  · exact others between again new

end Spaced
end Signaling
