import Signaling.Support.MapValues

/-!
# Totals over a tree set

A total adds up a weight over the elements of an extensional tree set. What an
insertion, a removal or a changed weight does to it is read off at one element.
-/

namespace Signaling

open Std

universe u v

variable {κ : Type u} {α : Type v}
variable {cmp : κ -> κ -> Ordering} [TransCmp cmp]

/-- The sum of a weight over the elements of a set. -/
def total (keys : ExtTreeSet κ cmp) (weight : κ -> Nat) : Nat :=
  (keys.toList.map weight).sum

@[simp] theorem total_empty (weight : κ -> Nat) :
    total (∅ : ExtTreeSet κ cmp) weight = 0 := by
  have nothing : (∅ : ExtTreeSet κ cmp).toList = [] :=
    ExtTreeSet.toList_eq_nil_iff.2 rfl
  rw [total, nothing]
  rfl

variable [LawfulEqCmp cmp]
variable {keys : ExtTreeSet κ cmp} {weight other : κ -> Nat} {key : κ}

/-- The elements of a set, for sums over them. -/
theorem total_eq_sum
    [DecidableEq κ]
    (keys : ExtTreeSet κ cmp)
    (weight : κ -> Nat) :
    total keys weight = ∑ key ∈ keys.toList.toFinset, weight key := by
  have distinct : keys.toList.Nodup :=
    ExtTreeSet.distinct_toList.imp fun differ same => differ (by
      rw [same]
      exact ReflCmp.compare_self)
  rw [List.sum_toFinset _ distinct, total]

theorem total_congr
    (same : ∀ key ∈ keys, weight key = other key) :
    total keys weight = total keys other := by
  unfold total
  congr 1
  exact List.map_congr_left fun key listed =>
    same key (ExtTreeSet.mem_toList.1 listed)

/-- A new element adds its weight. -/
theorem total_insert (fresh : key ∉ keys) :
    total (keys.insert key) weight = total keys weight + weight key := by
  classical
  have listed : (keys.insert key).toList.toFinset =
      insert key keys.toList.toFinset := by
    ext each
    simp [LawfulEqCmp.compare_eq_iff_eq, eq_comm (a := key)]
  rw [total_eq_sum, total_eq_sum, listed, Finset.sum_insert (by simpa using fresh),
    Nat.add_comm]

/-- An element that is dropped takes its weight away. -/
theorem total_erase (present : key ∈ keys) :
    total (keys.erase key) weight + weight key = total keys weight := by
  classical
  have listed : (keys.erase key).toList.toFinset =
      keys.toList.toFinset.erase key := by
    ext each
    simp [LawfulEqCmp.compare_eq_iff_eq, eq_comm (a := key)]
  rw [total_eq_sum, total_eq_sum, listed,
    Finset.sum_erase_add _ _ (by simpa using present)]

/-- Where two weights agree away from one element, the totals differ by what
they give to it. -/
theorem total_exchange
    (present : key ∈ keys)
    (same : ∀ each ∈ keys, each ≠ key -> weight each = other each) :
    total keys other + weight key = total keys weight + other key := by
  have rest : total (keys.erase key) weight = total (keys.erase key) other := by
    refine total_congr fun each listed => same each ?_ ?_
    · exact ExtTreeSet.mem_of_mem_erase listed
    · rintro rfl
      simp at listed
  have before : total (keys.erase key) weight + weight key =
      total keys weight := total_erase present
  have after : total (keys.erase key) other + other key = total keys other :=
    total_erase present
  omega

/-- A total is bounded by a tally when each element weighs no more than what the
map stores under it. -/
theorem total_le_tally
    {entries : ExtTreeMap κ α cmp}
    {bound : α -> Nat}
    (le : ∀ key ∈ keys, weight key ≤ weightAt entries bound key) :
    total keys weight ≤ tally entries bound := by
  classical
  rw [total_eq_sum, tally_eq_sum entries bound
    (keys.toList.toFinset ∪ entries.keys.toFinset) (by simp +contextual)]
  refine (Finset.sum_le_sum fun key listed => le key (by simpa using listed)).trans
    (Finset.sum_le_sum_of_subset Finset.subset_union_left)

end Signaling
