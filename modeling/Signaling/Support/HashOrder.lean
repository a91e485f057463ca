import Mathlib.Data.List.Perm.Basic

/-!
# Visiting orders of hash maps

A hash map hands out its entries in an order that its keys do not determine. A
`HashOrder` fixes one such order for every map that a call walks over; maps are
told apart by an index. Quantifying over all orders covers every order that a
run of the program can meet.
-/

namespace Signaling

/-- One choice of visiting order for every indexed map. -/
structure HashOrder (ι : Type) where
  /-- The order in which the entries of one map are met. -/
  visit : ι -> {α : Type} -> List α -> List α
  /-- A walk meets every entry exactly once. -/
  visit_perm : ∀ (index : ι) {α : Type} (entries : List α),
    (visit index entries).Perm entries

namespace HashOrder

variable {ι α : Type}

/-- The order that leaves every listing as it is. -/
def sorted : HashOrder ι where
  visit := fun _ _ entries => entries
  visit_perm := fun _ _ entries => List.Perm.refl entries

@[simp] theorem mem_visit
    (order : HashOrder ι)
    (index : ι)
    (entries : List α)
    (entry : α) :
    entry ∈ order.visit index entries ↔ entry ∈ entries :=
  (order.visit_perm index entries).mem_iff

@[simp] theorem length_visit
    (order : HashOrder ι)
    (index : ι)
    (entries : List α) :
    (order.visit index entries).length = entries.length :=
  (order.visit_perm index entries).length_eq

/-- A listing without repetitions is walked without repetitions. -/
theorem nodup_visit
    (order : HashOrder ι)
    (index : ι)
    {entries : List α}
    (nodup : entries.Nodup) :
    (order.visit index entries).Nodup :=
  (order.visit_perm index entries).nodup_iff.2 nodup

end HashOrder

end Signaling
