import Mathlib.Data.List.Basic

/-!
# Stable sorting

What a merge sort leaves as it was: members that tie with each other keep their order
(`filter_mergeSort_of_tied`), also when they are sorted by a numeric key (`filter_mergeSort_key`).
-/

namespace AbcMetric

section

variable {α : Type} {le : α → α → Bool}

/-- **Sorting is stable**: members that pass a test which only ties pass stay in order. -/
theorem filter_mergeSort_of_tied (trans : ∀ a b c, le a b = true → le b c = true → le a c = true)
    (total : ∀ a b, (le a b || le b a) = true) {p : α → Bool}
    (tied : ∀ a b, p a = true → p b = true → le a b = true) (xs : List α) :
    (xs.mergeSort le).filter p = xs.filter p := by
  have hkey : (xs.filter p).Pairwise fun a b => le a b = true :=
    List.pairwise_of_forall_mem_list fun a ha b hb =>
      tied a b (List.mem_filter.mp ha).2 (List.mem_filter.mp hb).2
  have hsub : (xs.filter p).Sublist (xs.mergeSort le) :=
    List.sublist_mergeSort trans total hkey List.filter_sublist
  have hfiltered := hsub.filter p
  rw [List.filter_filter] at hfiltered
  simp only [Bool.and_self] at hfiltered
  exact (hfiltered.eq_of_length ((List.mergeSort_perm xs _).filter _).length_eq.symm).symm

end

section

variable {α : Type} (f : α → Nat) (xs : List α)

theorem le_key_trans (a b c : α) (hab : decide (f a ≤ f b) = true)
    (hbc : decide (f b ≤ f c) = true) : decide (f a ≤ f c) = true :=
  decide_eq_true (Nat.le_trans (of_decide_eq_true hab) (of_decide_eq_true hbc))

theorem le_key_total (a b : α) : (decide (f a ≤ f b) || decide (f b ≤ f a)) = true := by
  rw [Bool.or_eq_true, decide_eq_true_eq, decide_eq_true_eq]
  exact Nat.le_total _ _

theorem pairwise_mergeSort_key : (xs.mergeSort (f · ≤ f ·)).Pairwise (f · ≤ f ·) :=
  (List.pairwise_mergeSort (le_key_trans f) (le_key_total f) xs).imp of_decide_eq_true

/-- What has one key stays in order. -/
theorem filter_mergeSort_key (l : Nat) :
    (xs.mergeSort (f · ≤ f ·)).filter (f · = l) = xs.filter (f · = l) := by
  refine filter_mergeSort_of_tied (le_key_trans f) (le_key_total f) (fun a b ha hb => ?_) xs
  exact decide_eq_true (Nat.le_of_eq ((of_decide_eq_true ha).trans (of_decide_eq_true hb).symm))

end

end AbcMetric
