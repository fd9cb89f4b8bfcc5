import Mathlib.Data.List.Basic

/-!
# Sorting and Dropping

A list is sorted stably, so elements can be dropped before or after that.

- `mergeSort_cons_eq`: where a new first element is placed.
- `filter_mergeSort`: dropping commutes with sorting.
-/

namespace Flotilla

variable {α : Type} {le : α → α → Bool}

/-- A new first element is placed behind those that it may not precede. -/
theorem mergeSort_cons_eq (htrans : ∀ a b c, le a b → le b c → le a c)
    (htotal : ∀ a b, le a b || le b a) (a : α) (rest : List α) :
    (a :: rest).mergeSort le =
      (rest.mergeSort le).filter (fun b => !le a b) ++ a :: (rest.mergeSort le).filter (le a) := by
  obtain ⟨before, after, hsort, hrest, hbefore⟩ := List.mergeSort_cons htrans htotal a rest
  have hsorted := List.pairwise_mergeSort htrans htotal (a :: rest)
  rw [hsort, List.pairwise_append, List.pairwise_cons] at hsorted
  have hafter : ∀ b ∈ after, le a b = true := hsorted.2.1.1
  have hnone : before.filter (le a) = [] :=
    List.filter_eq_nil_iff.mpr fun b hb => by simpa using hbefore b hb
  have hnot : after.filter (fun b => !le a b) = [] :=
    List.filter_eq_nil_iff.mpr fun b hb => by simp [hafter b hb]
  -- What stands before the new element is exactly what it may not precede.
  rw [hsort, hrest, List.filter_append, List.filter_append, hnone, hnot,
    List.filter_eq_self.mpr hbefore, List.filter_eq_self.mpr hafter, List.append_nil,
    List.nil_append]

/-- Elements can be dropped before or after a list is sorted. -/
theorem filter_mergeSort (htrans : ∀ a b c, le a b → le b c → le a c)
    (htotal : ∀ a b, le a b || le b a) (p : α → Bool) (as : List α) :
    (as.mergeSort le).filter p = (as.filter p).mergeSort le := by
  induction as with
  | nil => simp
  | cons a rest ih =>
    by_cases ha : p a = true
    · -- Whether an element stands before the first one and whether it is dropped are two tests, and
      -- either one can be made first.
      rw [mergeSort_cons_eq htrans htotal, List.filter_append, List.filter_cons_of_pos ha,
        List.filter_cons_of_pos ha, mergeSort_cons_eq htrans htotal, ← ih, List.filter_comm,
        List.filter_comm (le a)]
    · -- An element that is dropped has changed nothing about the others.
      obtain ⟨before, after, hsort, hrest, -⟩ := List.mergeSort_cons htrans htotal a rest
      rw [List.filter_cons_of_neg ha, ← ih, hsort, hrest, List.filter_append, List.filter_append,
        List.filter_cons_of_neg ha]

end Flotilla
