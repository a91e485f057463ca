import Mathlib

/-!
# The least entry of a list

A walk that keeps the better of two entries ends with one that no other entry is
better than.
-/

namespace Signaling

universe u v

variable {α : Type u} {β : Type v} [LinearOrder β]

theorem foldl_least
    {better : α -> α -> Bool}
    (key : α -> β)
    (orders : ∀ left right, better left right = true ↔ key left < key right)
    (entries : List α)
    (first : α) :
    entries.foldl (fun best entry => if better entry best then entry else best)
        first ∈ first :: entries ∧
      ∀ entry ∈ first :: entries,
        key (entries.foldl
          (fun best entry => if better entry best then entry else best) first) ≤
            key entry := by
  induction entries generalizing first with
  | nil => simp
  | cons entry entries inductionHypothesis =>
      simp only [List.foldl_cons]
      cases ahead : better entry first with
      | true =>
          obtain ⟨inside, least⟩ := inductionHypothesis entry
          have less := (orders entry first).1 ahead
          refine ⟨List.mem_cons_of_mem _ inside, fun other listed => ?_⟩
          rcases List.mem_cons.1 listed with rfl | listed
          · exact (least entry List.mem_cons_self).trans less.le
          · exact least other listed
      | false =>
          obtain ⟨inside, least⟩ := inductionHypothesis first
          have more : key first ≤ key entry := by
            rw [← not_lt, ← orders, ahead]
            simp
          refine ⟨?_, fun other listed => ?_⟩
          · rcases List.mem_cons.1 inside with same | inside
            · exact List.mem_cons.2 (.inl same)
            · exact List.mem_cons_of_mem _ (List.mem_cons_of_mem _ inside)
          · rcases List.mem_cons.1 listed with rfl | listed
            · exact least _ List.mem_cons_self
            · rcases List.mem_cons.1 listed with rfl | listed
              · exact (least first List.mem_cons_self).trans more
              · exact least other (List.mem_cons_of_mem _ listed)

end Signaling
