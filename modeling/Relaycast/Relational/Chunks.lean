import Mathlib.Data.Nat.Notation

/-!
# Lists in slices

A statement takes a bounded number of values, so a long list of values is cut into slices and the
statement is issued for each of them.
-/

namespace Relational

/-- The loop `for (offset = 0; offset < xs.length; offset += n)` over `xs.slice(offset, offset +
n)`: its slices.  The first argument bounds their number. -/
def slices {α : Type} (n : ℕ) : ℕ → List α → List (List α)
  | 0, _ => []
  | _ + 1, [] => []
  | fuel + 1, x :: xs => (x :: xs).take n :: slices n fuel ((x :: xs).drop n)

lemma flatten_slices {α : Type} {n : ℕ} (hn : 0 < n) {fuel : ℕ} {xs : List α}
    (h : xs.length ≤ fuel) : (slices n fuel xs).flatten = xs := by
  induction fuel generalizing xs with
  | zero => simp [slices, List.length_eq_zero_iff.mp (Nat.le_zero.mp h)]
  | succ fuel ih =>
    cases xs with
    | nil => rfl
    | cons x xs =>
      have hdrop : ((x :: xs).drop n).length ≤ fuel := by
        simp only [List.length_drop, List.length_cons] at h ⊢
        omega
      rw [slices, List.flatten_cons, ih hdrop, List.take_append_drop]

/-- The rows that a lookup finds for slices of the values, one slice after the other. -/
def inSlices {α β : Type} (n : ℕ) (values : List α) (query : List α → List β) : List β :=
  (slices n values.length values).flatMap query

/-- A lookup that asks for each value by itself finds in slices what it finds for all values. -/
lemma mem_inSlices {α β : Type} {n : ℕ} (hn : 0 < n) {values : List α}
    {query : List α → List β} {found : α → β → Prop}
    (h : ∀ chunk r, r ∈ query chunk ↔ ∃ v ∈ chunk, found v r) {r : β} :
    r ∈ inSlices n values query ↔ ∃ v ∈ values, found v r := by
  have hall : (slices n values.length values).flatten = values := flatten_slices hn (Nat.le_refl _)
  rw [inSlices, List.mem_flatMap]
  constructor
  · rintro ⟨chunk, hchunk, hr⟩
    obtain ⟨v, hv, hfound⟩ := (h chunk r).mp hr
    refine ⟨v, ?_, hfound⟩
    rw [← hall]
    exact List.mem_flatten.mpr ⟨chunk, hchunk, hv⟩
  · rintro ⟨v, hv, hfound⟩
    rw [← hall] at hv
    obtain ⟨chunk, hchunk, hv⟩ := List.mem_flatten.mp hv
    exact ⟨chunk, hchunk, (h chunk r).mpr ⟨v, hv, hfound⟩⟩

end Relational
