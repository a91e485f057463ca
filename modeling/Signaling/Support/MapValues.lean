import Mathlib

/-!
# The values of a tree map

The listing of the values of an extensional tree map goes along the listing of
its entries. A tally sums a weight over the values; tallies are compared key by
key.
-/

namespace Signaling

open Std

universe u v w

section Values

variable {κ : Type u} {α : Type v}

theorem foldr_values
    (tree : DTreeMap.Internal.Impl κ fun _ => α)
    (values : List α)
    (entries : List (κ × α))
    (same : values = entries.map Prod.snd) :
    tree.foldr (fun _ value rest => value :: rest) values =
      (tree.foldr (fun key value rest => (key, value) :: rest)
        entries).map Prod.snd := by
  induction tree generalizing values entries with
  | leaf => exact same
  | inner size key value left right leftHypothesis rightHypothesis =>
      exact leftHypothesis _ _
        (congrArg (value :: ·) (rightHypothesis values entries same))

variable {cmp : κ -> κ -> Ordering} [TransCmp cmp]

/-- The values are the second components of the entries. -/
theorem values_eq_map_toList (entries : ExtTreeMap κ α cmp) :
    entries.values = entries.toList.map Prod.snd := by
  obtain ⟨⟨quotient⟩⟩ := entries
  induction quotient using Quotient.inductionOn with
  | h tree => exact foldr_values tree.inner [] [] rfl

theorem mem_values
    [LawfulEqCmp cmp]
    {entries : ExtTreeMap κ α cmp}
    {value : α} :
    value ∈ entries.values ↔ ∃ key : κ, entries[key]? = some value := by
  rw [values_eq_map_toList, List.mem_map]
  constructor
  · rintro ⟨⟨key, stored⟩, listed, rfl⟩
    exact ⟨key, ExtTreeMap.mem_toList_iff_getElem?_eq_some.1 listed⟩
  · rintro ⟨key, found⟩
    exact ⟨(key, value),
      ExtTreeMap.mem_toList_iff_getElem?_eq_some.2 found, rfl⟩

/-- The entries of a map are listed without repetitions. -/
theorem nodup_toList (entries : ExtTreeMap κ α cmp) :
    entries.toList.Nodup := by
  refine List.Nodup.of_map Prod.fst ?_
  rw [ExtTreeMap.map_fst_toList_eq_keys]
  exact ExtTreeMap.nodup_keys

end Values

section Tally

variable {κ : Type u} {α : Type v} {β : Type w}
variable {cmp : κ -> κ -> Ordering} [TransCmp cmp]

/-- The sum of a weight over the values of a map. -/
def tally (entries : ExtTreeMap κ α cmp) (weight : α -> Nat) : Nat :=
  (entries.values.map weight).sum

/-- The weight of what a map stores under a key. -/
def weightAt
    (entries : ExtTreeMap κ α cmp)
    (weight : α -> Nat)
    (key : κ) : Nat :=
  entries[key]?.elim 0 weight

/-- A tally of ones counts the entries. -/
theorem tally_one (entries : ExtTreeMap κ α cmp) :
    tally entries (fun _ => 1) = entries.size := by
  rw [tally, values_eq_map_toList, List.map_map, ← ExtTreeMap.length_toList]
  simp [Function.comp_def]

theorem tally_empty (weight : α -> Nat) :
    tally (∅ : ExtTreeMap κ α cmp) weight = 0 := by
  have nothing : (∅ : ExtTreeMap κ α cmp).toList = [] :=
    ExtTreeMap.toList_eq_nil_iff.2 rfl
  rw [tally, values_eq_map_toList, nothing]
  rfl

variable [LawfulEqCmp cmp]

/-- A tally counts something when some value weighs something. -/
theorem tally_pos_iff
    {entries : ExtTreeMap κ α cmp}
    {weight : α -> Nat} :
    0 < tally entries weight ↔
      ∃ (key : κ) (value : α), entries[key]? = some value ∧ 0 < weight value := by
  rw [tally, List.sum_pos_iff_exists_pos_nat]
  constructor
  · rintro ⟨_, listed, positive⟩
    obtain ⟨value, inside, rfl⟩ := List.mem_map.1 listed
    obtain ⟨key, stored⟩ := mem_values.1 inside
    exact ⟨key, value, stored, positive⟩
  · rintro ⟨key, value, stored, positive⟩
    exact ⟨weight value, List.mem_map.2
      ⟨value, mem_values.2 ⟨key, stored⟩, rfl⟩, positive⟩

open Classical in
/-- A tally is a sum over any set of keys that covers the map. -/
theorem tally_eq_sum
    (entries : ExtTreeMap κ α cmp)
    (weight : α -> Nat)
    (keys : Finset κ)
    (covers : ∀ key ∈ entries.keys, key ∈ keys) :
    tally entries weight = ∑ key ∈ keys, weightAt entries weight key := by
  have listed : entries.keys.toFinset ⊆ keys :=
    fun key present => covers key (List.mem_toFinset.1 present)
  have outside (key : κ) (absent : key ∉ entries.keys.toFinset) :
      weightAt entries weight key = 0 := by
    have missing : entries[key]? = none := by simpa using absent
    simp [weightAt, missing]
  rw [← Finset.sum_subset listed fun key _ absent => outside key absent,
    List.sum_toFinset _ ExtTreeMap.nodup_keys, tally, values_eq_map_toList,
    ← ExtTreeMap.map_fst_toList_eq_keys, List.map_map, List.map_map]
  congr 1
  refine List.map_congr_left fun ⟨key, value⟩ present => ?_
  have stored := ExtTreeMap.mem_toList_iff_getElem?_eq_some.1 present
  simp [weightAt, stored]

/-- Where two maps agree away from one key, their tallies differ by what they
store there. -/
theorem tally_exchange
    {left right : ExtTreeMap κ α cmp}
    {weight : α -> Nat}
    {key : κ}
    (same : ∀ other, other ≠ key -> left[other]? = right[other]?) :
    tally right weight + weightAt left weight key =
      tally left weight + weightAt right weight key := by
  classical
  let keys := insert key (left.keys.toFinset ∪ right.keys.toFinset)
  have listed : key ∈ keys := Finset.mem_insert_self _ _
  have elsewhere : ∑ other ∈ keys.erase key, weightAt left weight other =
      ∑ other ∈ keys.erase key, weightAt right weight other :=
    Finset.sum_congr rfl fun other present => by
      rw [weightAt, same other (Finset.ne_of_mem_erase present), weightAt]
  rw [tally_eq_sum left weight keys (by simp +contextual [keys]),
    tally_eq_sum right weight keys (by simp +contextual [keys]),
    ← Finset.sum_erase_add keys _ listed, ← Finset.sum_erase_add keys _ listed,
    elsewhere]
  omega

theorem tally_le
    {left : ExtTreeMap κ α cmp}
    {right : ExtTreeMap κ β cmp}
    {weight : α -> Nat}
    {bound : β -> Nat}
    (le : ∀ key, weightAt left weight key ≤ weightAt right bound key) :
    tally left weight ≤ tally right bound := by
  classical
  rw [tally_eq_sum left weight (left.keys.toFinset ∪ right.keys.toFinset)
      (by simp +contextual),
    tally_eq_sum right bound (left.keys.toFinset ∪ right.keys.toFinset)
      (by simp +contextual)]
  exact Finset.sum_le_sum fun key _ => le key

theorem tally_lt
    {left : ExtTreeMap κ α cmp}
    {right : ExtTreeMap κ β cmp}
    {weight : α -> Nat}
    {bound : β -> Nat}
    (le : ∀ key, weightAt left weight key ≤ weightAt right bound key)
    {key : κ}
    (less : weightAt left weight key < weightAt right bound key) :
    tally left weight < tally right bound := by
  classical
  have present : key ∈ right.keys := by
    by_contra absent
    have missing : right[key]? = none := by simpa using absent
    simp [weightAt, missing] at less
  rw [tally_eq_sum left weight (left.keys.toFinset ∪ right.keys.toFinset)
      (by simp +contextual),
    tally_eq_sum right bound (left.keys.toFinset ∪ right.keys.toFinset)
      (by simp +contextual)]
  exact Finset.sum_lt_sum (fun key _ => le key)
    ⟨key, by simpa using Or.inr present, less⟩

end Tally

/-- The least entry of a list has passed a bound when some entry has. -/
theorem min?_le_iff
    {entries : List Nat}
    {bound : Nat} :
    (∃ least, entries.min? = some least ∧ least ≤ bound) ↔
      ∃ entry ∈ entries, entry ≤ bound := by
  constructor
  · rintro ⟨least, found, passed⟩
    exact ⟨least, List.min?_mem found, passed⟩
  · rintro ⟨entry, present, passed⟩
    cases found : entries.min? with
    | none =>
        rw [List.min?_eq_none_iff] at found
        simp [found] at present
    | some least =>
        have below := (List.min?_eq_some_iff.1 found).2 entry present
        exact ⟨least, rfl, below.trans passed⟩

/-- A list in which one entry alone yields anything. -/
theorem flatMap_of_single
    {α : Type u}
    {β : Type v}
    {entries : List α}
    {yield : α -> List β}
    {entry : α}
    (distinct : entries.Nodup)
    (listed : entry ∈ entries)
    (silent : ∀ other ∈ entries, other ≠ entry -> yield other = []) :
    entries.flatMap yield = yield entry := by
  obtain ⟨front, back, rfl⟩ := List.append_of_mem listed
  have nothing (part : List α)
      (inside : ∀ other ∈ part, other ∈ front ++ entry :: back)
      (apart : entry ∉ part) :
      part.flatMap yield = [] := by
    refine List.flatMap_eq_nil_iff.2 fun other present => ?_
    exact silent other (inside other present)
      (by rintro rfl; exact apart present)
  have split := List.nodup_append.1 distinct
  rw [List.flatMap_append, List.flatMap_cons,
    nothing front (fun _ present => by simp [present])
      (fun present => split.2.2 entry present entry (by simp) rfl),
    nothing back (fun _ present => by simp [present])
      (List.nodup_cons.1 split.2.1).1]
  simp

end Signaling
