import Relaycast.Relational.Keyset

/-!
# Scans in batches

The first rows in the order of their keys that pass a check, where the check is not one the database
can make.  Rows are read in batches, each from behind the last key of the batch before, and checked
until there are enough of them, or a batch is empty or not full.

However large the batches are and wherever rows that fail fall in them, the result is what sorting
all rows that pass would give (`keysetScan_eq`), and there are at most as many batches as rows and
one more.
-/

namespace Relational

variable {Row K : Type} [LinearOrder K] (key : Row → K)

/-- The rows behind the cursor. -/
def behind (cursor : Option K) (rows : List Row) : List Row :=
  rows.filter fun r => ∀ k ∈ cursor, k < key r

/-- The rows of a batch that pass are added, as long as there are not enough. -/
def addPassing (p : Row → Bool) (limit : ℕ) : List Row → List Row → List Row
  | found, [] => found
  | found, r :: batch =>
    if limit ≤ found.length then found
    else addPassing p limit (if p r then found ++ [r] else found) batch

/-- Reads batch after batch; `none` when it is out of fuel. -/
def keysetScan (p : Row → Bool) (limit batchSize : ℕ) (rows : List Row) :
    ℕ → Option K → List Row → Option (List Row)
  | 0, _, _ => none
  | fuel + 1, cursor, found =>
    let batch := firstRows key batchSize (behind key cursor rows)
    match batch.getLast? with
    | none => some found
    | some last =>
      let found := addPassing p limit found batch
      if limit ≤ found.length then some found
      else if batch.length < batchSize then some found
      else keysetScan p limit batchSize rows fuel (some (key last)) found

variable {key} {p : Row → Bool} {limit batchSize : ℕ} {rows : List Row}

/-! ## One batch -/

lemma addPassing_eq (xs batch : List Row) : addPassing p limit (xs.take limit) batch =
    (xs ++ batch.filter p).take limit := by
  induction batch generalizing xs with
  | nil => simp [addPassing]
  | cons r batch ih =>
    rw [addPassing]
    split_ifs with hfull hp
    · rw [List.length_take] at hfull
      exact (List.take_append_of_le_length (by omega)).symm
    · have htake : xs.take limit ++ [r] = (xs ++ [r]).take limit := by
        rw [List.length_take] at hfull
        rw [List.take_of_length_le (by omega),
          List.take_of_length_le (by rw [List.length_append, List.length_singleton]; omega)]
      rw [htake, ih, List.filter_cons_of_pos hp, List.append_assoc, List.singleton_append]
    · rw [ih, List.filter_cons_of_neg hp]

/-- Rows with different keys have one order. -/
lemma eq_of_pairwise_key {xs ys : List Row} (hperm : xs.Perm ys) (hnodup : (xs.map key).Nodup)
    (hxs : xs.Pairwise fun a b => key a ≤ key b) (hys : ys.Pairwise fun a b => key a ≤ key b) :
    xs = ys :=
  hperm.eq_of_pairwise (fun _ _ ha hb hab hba => List.inj_on_of_nodup_map hnodup ha
    (hperm.mem_iff.mpr hb) (le_antisymm hab hba)) hxs hys

/-- Sorting what a filter keeps is filtering what is sorted. -/
lemma insertionSort_filter (h : (rows.map key).Nodup) (q : Row → Bool) :
    (rows.filter q).insertionSort (fun a b => key a ≤ key b) =
      (rows.insertionSort fun a b => key a ≤ key b).filter q := by
  refine eq_of_pairwise_key ?_ ?_ (pairwise_insertionSort_key key _)
    ((pairwise_insertionSort_key key rows).filter q)
  · exact (List.perm_insertionSort _ _).trans ((List.perm_insertionSort _ _).filter q).symm
  · exact ((List.perm_insertionSort _ _).map key).nodup_iff.mpr
      (h.sublist (List.filter_sublist.map key))

lemma firstRows_filter (h : (rows.map key).Nodup) (q : Row → Bool) (k : ℕ) :
    firstRows key k (rows.filter q) =
      ((rows.insertionSort fun a b => key a ≤ key b).filter q).take k := by
  rw [firstRows, insertionSort_filter h]

/-- Behind the last of the rows that were read are those that were not. -/
lemma behind_getLast? {done rest : List Row}
    (hsorted : ((done ++ rest).map key).Pairwise (· < ·)) :
    behind key (done.getLast?.map key) (done ++ rest) = rest := by
  rw [List.pairwise_map] at hsorted
  have hcross := (List.pairwise_append.mp hsorted).2.2
  have hrest : rest.filter (fun r => ∀ k ∈ done.getLast?.map key, k < key r) = rest := by
    refine List.filter_eq_self.mpr fun r hr => decide_eq_true fun k hk => ?_
    obtain ⟨last, hlast, rfl⟩ := Option.map_eq_some_iff.mp hk
    exact hcross last (List.mem_of_getLast? hlast) r hr
  have hdone : done.filter (fun r => ∀ k ∈ done.getLast?.map key, k < key r) = [] := by
    refine List.filter_eq_nil_iff.mpr fun r hr hbehind => ?_
    have hne : done ≠ [] := List.ne_nil_of_mem hr
    have hlt : key (done.getLast hne) < key r :=
      of_decide_eq_true hbehind _ (by rw [List.getLast?_eq_getLast_of_ne_nil hne]; rfl)
    have hle : key r ≤ key (done.getLast hne) := by
      have hpairs := (List.pairwise_append.mp hsorted).1
      rw [← List.dropLast_append_getLast hne] at hr hpairs
      rcases List.mem_append.mp hr with hr | hr
      · exact ((List.pairwise_append.mp hpairs).2.2 r hr _ (List.mem_singleton_self _)).le
      · exact (congrArg key (List.mem_singleton.mp hr)).le
    exact absurd hlt (not_lt.mpr hle)
  rw [behind, List.filter_append, hdone, hrest, List.nil_append]

/-! ## The scan -/

/-- **From any batch on, a scan adds what is still missing.** -/
lemma keysetScan_of_split (h : (rows.map key).Nodup) (hbatch : 0 < batchSize) (fuel : ℕ) :
    ∀ done rest : List Row, (rows.insertionSort fun a b => key a ≤ key b) = done ++ rest →
      rest.length < fuel →
      keysetScan key p limit batchSize rows fuel (done.getLast?.map key)
        ((done.filter p).take limit) = some (((done ++ rest).filter p).take limit) := by
  have hsorted : ((rows.insertionSort fun a b => key a ≤ key b).map key).Pairwise (· < ·) := by
    have hall := pairwise_firstRows h (rows.insertionSort fun a b => key a ≤ key b).length
    rwa [firstRows, List.take_length] at hall
  induction fuel with
  | zero => exact fun _ _ _ hfuel => absurd hfuel (Nat.not_lt_zero _)
  | succ fuel ih =>
    intro done rest hsplit hfuel
    have hread : firstRows key batchSize (behind key (done.getLast?.map key) rows) =
        rest.take batchSize := by
      have hbehind := behind_getLast? (hsplit ▸ hsorted)
      rw [behind] at hbehind
      rw [behind, firstRows_filter h, hsplit, hbehind]
    rw [keysetScan]
    simp only [hread, addPassing_eq]
    cases hlast : (rest.take batchSize).getLast? with
    | none =>
      have hnil : rest = [] := by
        rcases List.take_eq_nil_iff.mp (List.getLast?_eq_none_iff.mp hlast) with hzero | hnil
        · omega
        · exact hnil
      rw [hnil, List.append_nil]
    | some last =>
      have htaken : done.filter p ++ (rest.take batchSize).filter p =
          (done ++ rest.take batchSize).filter p := (List.filter_append ..).symm
      have hwhole : (done ++ rest.take batchSize) ++ rest.drop batchSize = done ++ rest := by
        rw [List.append_assoc, List.take_append_drop]
      simp only [htaken]
      rw [← hwhole]
      split_ifs with hfull hshort
      · rw [List.filter_append _ (rest.drop batchSize), List.take_append_of_le_length]
        rw [List.length_take] at hfull
        omega
      · rw [List.length_take] at hshort
        rw [List.drop_eq_nil_of_le (by omega), List.append_nil]
      · have hnext : (done ++ rest.take batchSize).getLast?.map key = some (key last) := by
          rw [List.getLast?_append, hlast]
          rfl
        rw [← hnext]
        refine ih _ _ (hsplit.trans hwhole.symm) ?_
        have hne := List.ne_nil_of_mem (List.mem_of_getLast? hlast)
        have hpos := List.length_pos_iff.mpr hne
        rw [List.length_take] at hpos
        rw [List.length_drop]
        omega

/-- **A scan finds the first rows of all that pass, in as many batches as there are rows and one
more at most.** -/
theorem keysetScan_eq (h : (rows.map key).Nodup) (hbatch : 0 < batchSize) {fuel : ℕ}
    (hfuel : rows.length < fuel) :
    keysetScan key p limit batchSize rows fuel none [] =
      some (firstRows key limit (rows.filter p)) := by
  have hscan : keysetScan key p limit batchSize rows fuel none [] =
      some (((rows.insertionSort fun a b => key a ≤ key b).filter p).take limit) := by
    have hempty : ([].filter p).take limit = [] := by simp
    rw [← hempty]
    exact keysetScan_of_split h hbatch fuel [] (rows.insertionSort fun a b => key a ≤ key b) rfl
      (by rwa [List.length_insertionSort])
  rw [hscan, firstRows_filter h]

end Relational
