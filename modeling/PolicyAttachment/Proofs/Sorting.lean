import Mathlib.Data.List.Basic

namespace PolicyAttachment.Sorting

theorem isLE_total {κ : Type} [Ord κ] [Std.OrientedOrd κ] (a b : κ) :
    ((compare a b).isLE || (compare b a).isLE) = true := by
  cases h : compare a b with
  | lt => rfl
  | eq => rfl
  | gt => simp [Std.OrientedCmp.lt_of_gt h]

variable {α : Type}

theorem takeWhile_append_eq_left (q : α → Bool) {xs ys : List α} (hx : ∀ x ∈ xs, q x = true)
    (hy : ∀ y ∈ ys, q y = false) : (xs ++ ys).takeWhile q = xs := by
  rw [List.takeWhile_append_of_pos hx]
  cases ys with
  | nil => simp
  | cons y ys => simp [hy y (by simp)]

theorem eq_of_append_eq_append (q : α → Bool) {us vs us' vs' : List α} (h : us ++ vs = us' ++ vs')
    (hus : ∀ x ∈ us, q x = true) (hvs : ∀ y ∈ vs, q y = false) (hus' : ∀ x ∈ us', q x = true)
    (hvs' : ∀ y ∈ vs', q y = false) : us = us' ∧ vs = vs' := by
  have heq : us = us' := by
    rw [← takeWhile_append_eq_left q hus hvs, h, takeWhile_append_eq_left q hus' hvs']
  subst heq
  exact ⟨rfl, List.append_cancel_left h⟩

section

variable [DecidableEq α] {xs ys : List α} {x y : α}

theorem pairwise_idxOf_lt (h : xs.Nodup) : xs.Pairwise fun a b => xs.idxOf a < xs.idxOf b := by
  apply List.pairwise_iff_getElem.mpr
  intro i j hi hj hij
  rwa [h.idxOf_getElem, h.idxOf_getElem]

theorem idxOf_lt_of_mem_left (h : (xs ++ x :: ys).Nodup) (hy : y ∈ xs) :
    (xs ++ x :: ys).idxOf y < (xs ++ x :: ys).idxOf x :=
  (List.pairwise_append.mp (pairwise_idxOf_lt h)).2.2 y hy x List.mem_cons_self

theorem idxOf_lt_of_mem_right (h : (xs ++ x :: ys).Nodup) (hy : y ∈ ys) :
    (xs ++ x :: ys).idxOf x < (xs ++ x :: ys).idxOf y :=
  (List.pairwise_cons.mp (List.pairwise_append.mp (pairwise_idxOf_lt h)).2.1).1 y hy

theorem idxOf_add_one_of_nodup (h : (xs ++ x :: y :: ys).Nodup) :
    (xs ++ x :: y :: ys).idxOf x + 1 = (xs ++ x :: y :: ys).idxOf y := by
  have hx : (xs ++ x :: y :: ys).idxOf x = xs.length := by
    simpa using h.idxOf_getElem xs.length (by simp)
  have hy : (xs ++ x :: y :: ys).idxOf y = xs.length + 1 := by
    simpa using h.idxOf_getElem (xs.length + 1) (by simp)
  rw [hx, hy]

end

section

variable {le : α → α → Bool} (trans : ∀ a b c, le a b = true → le b c = true → le a c = true)
  (total : ∀ a b, (le a b || le b a) = true)
include trans total

theorem exists_mergeSort_cons (a : α) (xs : List α) :
    ∃ us vs, (a :: xs).mergeSort le = us ++ a :: vs ∧ xs.mergeSort le = us ++ vs ∧
      (∀ u ∈ us, (!le a u) = true) ∧ ∀ v ∈ vs, (!le a v) = false := by
  obtain ⟨us, vs, hcons, hrest, hus⟩ := List.mergeSort_cons trans total a xs
  have hsorted := List.pairwise_mergeSort trans total (a :: xs)
  rw [hcons] at hsorted
  have hvs := (List.pairwise_cons.mp (List.pairwise_append.mp hsorted).2.1).1
  refine ⟨us, vs, hcons, hrest, hus, ?_⟩
  intro v hv
  rw [hvs v hv]
  rfl

theorem filter_mergeSort (p : α → Bool) (xs : List α) :
    (xs.mergeSort le).filter p = (xs.filter p).mergeSort le := by
  induction xs with
  | nil => simp
  | cons a xs ih =>
    obtain ⟨us, vs, hcons, hrest, hus, hvs⟩ := exists_mergeSort_cons trans total a xs
    rw [hrest, List.filter_append] at ih
    by_cases ha : p a = true
    · obtain ⟨us', vs', hcons', hrest', hus', hvs'⟩ :=
        exists_mergeSort_cons trans total a (xs.filter p)
      -- both lists are cut at the first element that `a` does not come after
      obtain ⟨heq, heq'⟩ := eq_of_append_eq_append (fun b => !le a b) (ih.trans hrest')
        (fun u hu => hus u (List.mem_of_mem_filter hu)) (fun v hv => hvs v (List.mem_of_mem_filter hv))
        hus' hvs'
      rw [hcons, List.filter_append, List.filter_cons_of_pos ha, List.filter_cons_of_pos ha, hcons', heq,
        heq']
    · rw [hcons, List.filter_append, List.filter_cons_of_neg ha, List.filter_cons_of_neg ha, ih]

end

theorem idxOf_lt_of_pairwise [DecidableEq α] {R : α → α → Prop} {xs : List α} {a b : α}
    (h : xs.Pairwise R) (ha : a ∈ xs) (hb : b ∈ xs) (hne : a ≠ b) (hR : ¬ R b a) :
    xs.idxOf a < xs.idxOf b := by
  rcases Nat.lt_trichotomy (xs.idxOf a) (xs.idxOf b) with hlt | heq | hgt
  · exact hlt
  · exact absurd ((List.idxOf_inj ha).mp heq) hne
  · have hba := List.pairwise_iff_getElem.mp h _ _ (List.idxOf_lt_length_iff.mpr hb)
      (List.idxOf_lt_length_iff.mpr ha) hgt
    rw [List.getElem_idxOf, List.getElem_idxOf] at hba
    exact absurd hba hR

end PolicyAttachment.Sorting
