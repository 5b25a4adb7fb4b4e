import Mathlib.Data.List.TakeWhile
import Mathlib.Data.Nat.Notation

/-!
# The first rows of an order

`ORDER BY … LIMIT k`, and a stable sort cut after `k` entries.  Sorting commutes with a filter
(`filter_mergeSort`), so a program that filters first and sorts what is left has the first `k` rows
of all exactly if the filter keeps these (`take_mergeSort_filter_iff`).
-/

namespace Relational

variable {α : Type} {le : α → α → Bool} {xs ys zs : List α} {p : α → Bool} {k : ℕ}

/-- Where a list is split by a condition. -/
lemma takeWhile_append_of_split (hxs : ∀ x ∈ xs, p x = true) (hys : ∀ y ∈ ys, p y = false) :
    (xs ++ ys).takeWhile p = xs := by
  rw [List.takeWhile_append_of_pos hxs]
  cases ys with
  | nil => simp
  | cons y ys => simp [hys y List.mem_cons_self]

section Stable

variable (trans : ∀ a b c, le a b = true → le b c = true → le a c = true)
  (total : ∀ a b, (le a b || le b a) = true)

include trans total

/-- What comes after an entry of the sorted list is not before it. -/
lemma le_of_mergeSort_cons {a : α} (h : (a :: xs).mergeSort le = ys ++ a :: zs) :
    ∀ b ∈ zs, le a b = true := by
  have hsorted := List.pairwise_mergeSort trans total (a :: xs)
  rw [h, List.pairwise_append, List.pairwise_cons] at hsorted
  exact hsorted.2.1.1

/-- **A stable sort commutes with a filter.** -/
theorem filter_mergeSort (xs : List α) :
    (xs.mergeSort le).filter p = (xs.filter p).mergeSort le := by
  induction xs with
  | nil => simp
  | cons a xs ih =>
    obtain ⟨l₁, l₂, hsort, hrest, hbefore⟩ := List.mergeSort_cons trans total a xs
    rw [hrest, List.filter_append] at ih
    rw [hsort, List.filter_append]
    cases hp : p a with
    | false => simpa [hp] using ih
    | true =>
      obtain ⟨l₃, l₄, hsort', hrest', hbefore'⟩ :=
        List.mergeSort_cons trans total a (xs.filter p)
      -- Both lists are split where the entries stop being before `a`.
      have hafter : ∀ b ∈ l₂.filter p, (!le a b) = false := fun b hb => by
        simp [le_of_mergeSort_cons trans total hsort b (List.mem_filter.mp hb).1]
      have hafter' : ∀ b ∈ l₄, (!le a b) = false := fun b hb => by
        simp [le_of_mergeSort_cons trans total hsort' b hb]
      have hsplit : l₁.filter p ++ l₂.filter p = l₃ ++ l₄ := ih.trans hrest'
      have hleft : l₁.filter p = l₃ := by
        rw [← takeWhile_append_of_split (fun b hb => hbefore b (List.mem_filter.mp hb).1) hafter,
          hsplit, takeWhile_append_of_split hbefore' hafter']
      rw [hleft] at hsplit ⊢
      rw [List.filter_cons_of_pos hp, List.filter_cons_of_pos hp, hsort',
        List.append_cancel_left hsplit]

end Stable

/-- Filtering a list that starts with what is kept. -/
lemma take_filter_of_take (h : ∀ x ∈ xs.take k, p x = true) : (xs.filter p).take k = xs.take k := by
  by_cases hk : k ≤ xs.length
  · have hsplit : xs.filter p = xs.take k ++ (xs.drop k).filter p := by
      calc xs.filter p = (xs.take k ++ xs.drop k).filter p := by rw [List.take_append_drop]
        _ = _ := by rw [List.filter_append, List.filter_eq_self.mpr h]
    rw [hsplit]
    exact List.take_left' (List.length_take_of_le hk)
  · have hall : xs.take k = xs := List.take_of_length_le (by omega)
    rw [hall] at h ⊢
    rw [List.filter_eq_self.mpr h, hall]

/-- **The first entries of a filtered list are the first of all exactly if the filter keeps
these.** -/
theorem take_mergeSort_filter_iff
    (trans : ∀ a b c, le a b = true → le b c = true → le a c = true)
    (total : ∀ a b, (le a b || le b a) = true) (xs : List α) :
    ((xs.filter p).mergeSort le).take k = (xs.mergeSort le).take k ↔
      ∀ x ∈ (xs.mergeSort le).take k, p x = true := by
  rw [← filter_mergeSort trans total]
  constructor
  · intro h x hx
    rw [← h] at hx
    exact (List.mem_filter.mp (List.mem_of_mem_take hx)).2
  · exact take_filter_of_take

/-- Where the entries of a list are distinct, its first ones are those found among them. -/
lemma filter_take {β : Type} [BEq β] [LawfulBEq β] {f : α → β} (h : (xs.map f).Nodup) (k : ℕ) :
    xs.filter (fun x => ((xs.take k).map f).contains (f x)) = xs.take k := by
  have hkept : (xs.take k).filter (fun x => ((xs.take k).map f).contains (f x)) = xs.take k :=
    List.filter_eq_self.mpr fun x hx =>
      List.contains_iff_mem.mpr (List.mem_map.mpr ⟨x, hx, rfl⟩)
  have hdropped : (xs.drop k).filter (fun x => ((xs.take k).map f).contains (f x)) = [] := by
    rw [List.filter_eq_nil_iff]
    intro x hx hfound
    rw [← List.take_append_drop k xs, List.map_append, List.nodup_append] at h
    rw [List.contains_iff_mem] at hfound
    exact h.2.2 _ hfound _ (List.mem_map.mpr ⟨x, hx, rfl⟩) rfl
  calc xs.filter (fun x => ((xs.take k).map f).contains (f x))
      = (xs.take k ++ xs.drop k).filter (fun x => ((xs.take k).map f).contains (f x)) := by
        rw [List.take_append_drop]
    _ = xs.take k := by rw [List.filter_append, hkept, hdropped, List.append_nil]

end Relational
