import Mathlib.Data.List.Basic
import Mathlib.Data.Nat.Bitwise

/-!
# Comparing codes

Two codes are compared without stopping at the first place where they differ: whatever differs
leaves a bit, and they are equal exactly if no bit is left (`difference_eq_zero`).
-/

namespace Coding

/-- The loop over the code units: whatever differs leaves a bit. -/
def difference (expected candidate : List ℕ) : ℕ :=
  (expected.zip candidate).foldl (fun d p => d ||| (p.1 ^^^ p.2)) 0

lemma foldl_or_eq_zero {ps : List (ℕ × ℕ)} {d : ℕ} :
    ps.foldl (fun d p => d ||| (p.1 ^^^ p.2)) d = 0 ↔ d = 0 ∧ ∀ p ∈ ps, p.1 = p.2 := by
  induction ps generalizing d with
  | nil => simp
  | cons p ps ih =>
    rw [List.foldl_cons, ih, Nat.or_eq_zero_iff, Nat.xor_eq_zero_iff, List.forall_mem_cons,
      and_assoc]

/-- **No difference is found exactly between equal codes.** -/
theorem difference_eq_zero {expected candidate : List ℕ}
    (hlen : candidate.length = expected.length) :
    difference expected candidate = 0 ↔ candidate = expected := by
  rw [difference, foldl_or_eq_zero]
  constructor
  · rintro ⟨-, hpairs⟩
    refine (List.ext_getElem hlen.symm fun i hi hi' => ?_).symm
    exact hpairs _ (List.mem_iff_getElem.mpr ⟨i, by rw [List.length_zip]; omega, List.getElem_zip⟩)
  · rintro rfl
    refine ⟨rfl, fun p hp => ?_⟩
    obtain ⟨i, hi, rfl⟩ := List.mem_iff_getElem.mp hp
    rw [List.getElem_zip]

end Coding
