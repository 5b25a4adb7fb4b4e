import Mathlib.Data.List.Sort
import Mathlib.Data.Nat.Notation

/-!
# Row numbers

`ROW_NUMBER() OVER (… ORDER BY …)` numbers the rows of a partition from one on, in their order.
Where no two rows are level in that order the numbers are the order: `rowNumber_lt_iff`.
-/

namespace Relational

variable {α : Type} [DecidableEq α] (le : α → α → Prop) [DecidableRel le]

/-- `ROW_NUMBER()` of a row among the rows of its partition. -/
def rowNumber (rows : List α) (r : α) : ℕ := (rows.insertionSort le).idxOf r + 1

variable {le} {rows : List α} {r r' : α}

lemma rowNumber_pos : 0 < rowNumber le rows r := Nat.succ_pos _

/-- Two rows with one number are one. -/
lemma rowNumber_inj (hr : r ∈ rows) (h : rowNumber le rows r = rowNumber le rows r') : r = r' := by
  have hmem : r ∈ rows.insertionSort le := (List.mem_insertionSort le).mpr hr
  have hidx : (rows.insertionSort le).idxOf r = (rows.insertionSort le).idxOf r' :=
    Nat.succ_injective h
  exact (List.idxOf_inj hmem).mp hidx

variable [Std.Total le] [IsTrans α le]

/-- A row has a smaller number than those after it. -/
lemma rowNumber_lt (hr : r ∈ rows) (hr' : r' ∈ rows) (hanti : le r' r → r = r')
    (hne : r ≠ r') : rowNumber le rows r < rowNumber le rows r' := by
  have hsorted : (rows.insertionSort le).Pairwise le := List.pairwise_insertionSort le rows
  have hlt : (rows.insertionSort le).idxOf r < (rows.insertionSort le).length :=
    List.idxOf_lt_length_iff.mpr ((List.mem_insertionSort le).mpr hr)
  have hlt' : (rows.insertionSort le).idxOf r' < (rows.insertionSort le).length :=
    List.idxOf_lt_length_iff.mpr ((List.mem_insertionSort le).mpr hr')
  by_contra hge
  have hneq : rowNumber le rows r' ≠ rowNumber le rows r := fun h =>
    hne (rowNumber_inj hr' h).symm
  have hidx : (rows.insertionSort le).idxOf r' < (rows.insertionSort le).idxOf r := by
    unfold rowNumber at hge hneq
    omega
  have hback := List.pairwise_iff_getElem.mp hsorted _ _ hlt' hlt hidx
  rw [List.getElem_idxOf, List.getElem_idxOf] at hback
  exact hne (hanti hback)

/-- **Row numbers follow the order.** -/
theorem rowNumber_lt_iff (hr : r ∈ rows) (hr' : r' ∈ rows) (hanti : le r r' → le r' r → r = r') :
    rowNumber le rows r < rowNumber le rows r' ↔ le r r' ∧ r ≠ r' := by
  constructor
  · intro h
    have hne : r ≠ r' := by
      rintro rfl
      exact Nat.lt_irrefl _ h
    refine ⟨?_, hne⟩
    rcases Std.Total.total (r := le) r r' with hle | hle
    · exact hle
    · have := rowNumber_lt hr' hr (fun h' => (hanti h' hle).symm) (Ne.symm hne)
      omega
  · rintro ⟨hle, hne⟩
    exact rowNumber_lt hr hr' (hanti hle) hne

end Relational
