import Mathlib.Data.List.Sort

/-!
# Traversals by key

Rows are read in pages: each page has the first rows in the order of their keys behind the last key
of the page before, up to a fence.  Rows come, go and change between the pages, so a page is taken
from a window of its own.

A traversal never meets a key twice (`pairwise_pagesOf`).  A row that is in every window is met if
the last page is not full or reaches the fence (`mem_pagesOf`), and there are at most as many pages
as keys up to the fence in all windows, and one more (`length_pagesOf_le`).
-/

namespace Relational

variable {Row K : Type} [LinearOrder K] (key : Row → K)

/-- `ORDER BY key LIMIT limit`. -/
def firstRows (limit : ℕ) (rows : List Row) : List Row :=
  (rows.insertionSort fun a b => key a ≤ key b).take limit

/-- `ORDER BY key DESC LIMIT 1`. -/
def lastRow (rows : List Row) : Option Row := (rows.insertionSort fun a b => key b ≤ key a).head?

/-- Behind the last key, and not beyond the fence. -/
def Ahead (after : Option K) (high k : K) : Prop := (∀ a ∈ after, a < k) ∧ k ≤ high

instance (after : Option K) (high k : K) : Decidable (Ahead after high k) :=
  inferInstanceAs (Decidable ((∀ a ∈ after, a < k) ∧ k ≤ high))

/-- The rows there are when a page is read, and how many it is to have. -/
structure Window (Row : Type) where
  rows : List Row
  limit : ℕ

/-- A page. -/
def pageOf (high : K) (after : Option K) (w : Window Row) : List Row :=
  firstRows key w.limit (w.rows.filter fun r => Ahead after high (key r))

/-- The last key, after a page. -/
def nextAfter (after : Option K) (page : List Row) : Option K := (page.getLast?.map key).or after

/-- The pages of a traversal. -/
def pagesOf (high : K) : Option K → List (Window Row) → List (List Row)
  | _, [] => []
  | after, w :: ws =>
    pageOf key high after w :: pagesOf high (nextAfter key after (pageOf key high after w)) ws

/-- A page that is not full, or reaches the fence. -/
def Ends (high : K) (w : Window Row) (page : List Row) : Prop :=
  page.length < w.limit ∨ page.getLast?.map key = some high

/-! ## One page -/

variable {key} {limit : ℕ} {rows : List Row} {r : Row} {high : K} {after : Option K}
  {w : Window Row} {ws : List (Window Row)}

lemma mem_of_mem_firstRows (h : r ∈ firstRows key limit rows) : r ∈ rows :=
  (List.mem_insertionSort _).mp (List.mem_of_mem_take h)

lemma pairwise_insertionSort_key (key : Row → K) (rows : List Row) :
    (rows.insertionSort fun a b => key a ≤ key b).Pairwise fun a b => key a ≤ key b := by
  have htotal : Std.Total fun a b : Row => key a ≤ key b := ⟨fun a b => le_total (key a) (key b)⟩
  have htrans : IsTrans Row fun a b : Row => key a ≤ key b := ⟨fun _ _ _ => le_trans⟩
  exact List.pairwise_insertionSort _ rows

/-- The keys of a page increase. -/
lemma pairwise_firstRows (h : (rows.map key).Nodup) (limit : ℕ) :
    ((firstRows key limit rows).map key).Pairwise (· < ·) := by
  have hsorted : ((rows.insertionSort fun a b => key a ≤ key b).map key).Pairwise (· ≤ ·) :=
    List.pairwise_map.mpr (pairwise_insertionSort_key key rows)
  have hnodup : ((rows.insertionSort fun a b => key a ≤ key b).map key).Nodup :=
    ((List.perm_insertionSort _ rows).map key).nodup_iff.mpr h
  have hstrict := hsorted.and hnodup
  rw [firstRows, List.map_take]
  exact (hstrict.imp fun hab => lt_of_le_of_ne hab.1 hab.2).sublist (List.take_sublist _ _)

/-- A row that is not on a page comes after all that are, and the page is full. -/
lemma mem_firstRows_or (key : Row → K) (hr : r ∈ rows) (limit : ℕ) :
    r ∈ firstRows key limit rows ∨ (firstRows key limit rows).length = limit ∧
      ∀ s ∈ firstRows key limit rows, key s ≤ key r := by
  have hmem := (List.mem_insertionSort fun a b => key a ≤ key b).mpr hr
  have hsorted := pairwise_insertionSort_key key rows
  rw [← List.take_append_drop limit (rows.insertionSort fun a b => key a ≤ key b)] at hmem hsorted
  rcases List.mem_append.mp hmem with hin | hin
  · exact .inl hin
  · refine .inr ⟨?_, fun s hs => (List.pairwise_append.mp hsorted).2.2 s hs r hin⟩
    have hpos := List.length_pos_of_mem hin
    rw [List.length_drop] at hpos
    rw [firstRows, List.length_take]
    omega

/-- The last row in the order of the keys. -/
lemma lastRow_some (h : lastRow key rows = some r) :
    r ∈ rows ∧ ∀ s ∈ rows, key s ≤ key r := by
  have htotal : Std.Total fun a b : Row => key b ≤ key a := ⟨fun a b => le_total (key b) (key a)⟩
  have htrans : IsTrans Row fun a b : Row => key b ≤ key a :=
    ⟨fun _ _ _ hab hbc => le_trans hbc hab⟩
  have hsorted := List.pairwise_insertionSort (fun a b : Row => key b ≤ key a) rows
  obtain ⟨rest, hrest⟩ := List.head?_eq_some_iff.mp h
  have hmem : ∀ s, s ∈ rows ↔ s ∈ r :: rest := fun s => by
    rw [← hrest, List.mem_insertionSort]
  rw [hrest, List.pairwise_cons] at hsorted
  refine ⟨(hmem r).mpr List.mem_cons_self, fun s hs => ?_⟩
  rcases List.mem_cons.mp ((hmem s).mp hs) with rfl | hs
  · exact le_refl _
  · exact hsorted.1 s hs

lemma lastRow_eq_none (h : lastRow key rows = none) : rows = [] := by
  have hnil := List.head?_eq_none_iff.mp h
  have hlen := List.length_insertionSort (fun a b : Row => key b ≤ key a) rows
  rw [hnil] at hlen
  exact List.length_eq_zero_iff.mp hlen.symm

lemma mem_pageOf (h : r ∈ pageOf key high after w) :
    r ∈ w.rows ∧ Ahead after high (key r) := by
  simpa using List.mem_filter.mp (mem_of_mem_firstRows h)

lemma pairwise_pageOf (h : (w.rows.map key).Nodup) :
    ((pageOf key high after w).map key).Pairwise (· < ·) :=
  pairwise_firstRows (h.sublist (List.filter_sublist.map key)) _

/-- Where the next page begins there is nothing of this one and all of the rest. -/
lemma ahead_of_nextAfter {k : K}
    (h : Ahead (nextAfter key after (pageOf key high after w)) high k) : Ahead after high k := by
  refine ⟨fun a ha => ?_, h.2⟩
  unfold nextAfter at h
  cases hlast : (pageOf key high after w).getLast? with
  | none =>
    rw [hlast] at h
    exact h.1 a ha
  | some last =>
    rw [hlast] at h
    have hmem := (mem_pageOf (List.mem_of_getLast? hlast)).2
    exact lt_trans (hmem.1 a ha) (h.1 (key last) rfl)

/-- The rows of a page are not behind its last one. -/
lemma le_nextAfter (hnodup : (w.rows.map key).Nodup) (hr : r ∈ pageOf key high after w) {k : K}
    (h : Ahead (nextAfter key after (pageOf key high after w)) high k) : key r < k := by
  have hne : pageOf key high after w ≠ [] := List.ne_nil_of_mem hr
  have hlast := List.getLast?_eq_getLast_of_ne_nil hne
  have hlt : (pageOf key high after w).getLast hne = r ∨
      key r < key ((pageOf key high after w).getLast hne) := by
    have hsorted : (pageOf key high after w).Pairwise fun a b => key a < key b :=
      List.pairwise_map.mp (pairwise_pageOf hnodup)
    rw [← List.dropLast_append_getLast hne] at hr hsorted
    rcases List.mem_append.mp hr with hin | hin
    · exact .inr ((List.pairwise_append.mp hsorted).2.2 r hin _ (by simp))
    · exact .inl (List.mem_singleton.mp hin).symm
  have hk : key ((pageOf key high after w).getLast hne) < k := by
    refine h.1 _ ?_
    simp [nextAfter, hlast]
  rcases hlt with heq | hlt
  · rwa [heq] at hk
  · exact lt_trans hlt hk

/-! ## Traversals -/

/-- What a traversal meets is ahead. -/
lemma ahead_of_mem_pagesOf (h : r ∈ (pagesOf key high after ws).flatten) :
    Ahead after high (key r) ∧ ∃ w ∈ ws, r ∈ w.rows := by
  induction ws generalizing after with
  | nil => simp [pagesOf] at h
  | cons w ws ih =>
    rw [pagesOf, List.flatten_cons, List.mem_append] at h
    rcases h with h | h
    · obtain ⟨hmem, hahead⟩ := mem_pageOf h
      exact ⟨hahead, w, List.mem_cons_self, hmem⟩
    · obtain ⟨hahead, w', hw', hmem⟩ := ih h
      exact ⟨ahead_of_nextAfter hahead, w', List.mem_cons_of_mem _ hw', hmem⟩

/-- **The keys a traversal meets increase.** -/
theorem pairwise_pagesOf (hnodup : ∀ w ∈ ws, (w.rows.map key).Nodup) :
    ((pagesOf key high after ws).flatten.map key).Pairwise (· < ·) := by
  induction ws generalizing after with
  | nil => simp [pagesOf]
  | cons w ws ih =>
    obtain ⟨hw, hws⟩ := List.forall_mem_cons.mp hnodup
    rw [pagesOf, List.flatten_cons, List.map_append, List.pairwise_append]
    refine ⟨pairwise_pageOf hw, ih hws, fun k hk k' hk' => ?_⟩
    obtain ⟨r, hr, rfl⟩ := List.mem_map.mp hk
    obtain ⟨r', hr', rfl⟩ := List.mem_map.mp hk'
    exact le_nextAfter hw hr (ahead_of_mem_pagesOf hr').1

/-- **A traversal that comes to its end meets every row that was there all the time.** -/
theorem mem_pagesOf (hnodup : ∀ w ∈ ws, (w.rows.map key).Nodup) (hr : ∀ w ∈ ws, r ∈ w.rows)
    (hahead : Ahead after high (key r)) {last : Window Row} {page : List Row}
    (hlast : ws.getLast? = some last) (hpage : (pagesOf key high after ws).getLast? = some page)
    (hends : Ends key high last page) : r ∈ (pagesOf key high after ws).flatten := by
  induction ws generalizing after with
  | nil => simp at hlast
  | cons w ws ih =>
    obtain ⟨hw, hws⟩ := List.forall_mem_cons.mp hnodup
    obtain ⟨hrw, hrws⟩ := List.forall_mem_cons.mp hr
    rw [pagesOf, List.flatten_cons, List.mem_append]
    have hfilter : r ∈ w.rows.filter fun r => Ahead after high (key r) :=
      List.mem_filter.mpr ⟨hrw, by simpa using hahead⟩
    rcases mem_firstRows_or key hfilter w.limit with hin | ⟨hfull, hle⟩
    · exact .inl hin
    · by_cases hmem : r ∈ pageOf key high after w
      · exact .inl hmem
      · have hlt : ∀ s ∈ pageOf key high after w, key s < key r := fun s hs =>
          lt_of_le_of_ne (hle s hs) fun heq => hmem (by
            have hsame : s = r := List.inj_on_of_nodup_map hw (mem_pageOf hs).1 hrw heq
            exact hsame ▸ hs)
        cases ws with
        | nil =>
          -- the last page is full and does not reach the fence
          rw [List.getLast?_singleton, Option.some.injEq] at hlast
          rw [pagesOf, pagesOf, List.getLast?_singleton, Option.some.injEq] at hpage
          subst hlast hpage
          rcases hends with hshort | hfence
          · exact absurd hfull (Nat.ne_of_lt hshort)
          · obtain ⟨s, hs, hkey⟩ := Option.map_eq_some_iff.mp hfence
            have hbelow := hlt s (List.mem_of_getLast? hs)
            rw [hkey] at hbelow
            exact absurd hahead.2 (not_le.mpr hbelow)
        | cons w' ws =>
          refine .inr (ih hws hrws ⟨fun a ha => ?_, hahead.2⟩ (by simpa using hlast) ?_)
          · rcases Option.mem_def.mp ha |> Option.or_eq_some_iff.mp with h | ⟨-, h⟩
            · obtain ⟨s, hs, rfl⟩ := Option.map_eq_some_iff.mp h
              exact hlt s (List.mem_of_getLast? hs)
            · exact hahead.1 a h
          · rwa [pagesOf, List.getLast?_cons_of_ne_nil (by simp [pagesOf])] at hpage

lemma length_pagesOf : (pagesOf key high after ws).length = ws.length := by
  induction ws generalizing after with
  | nil => rfl
  | cons w ws ih => rw [pagesOf, List.length_cons, List.length_cons, ih]

/-- **A traversal has at most one page more than there are keys up to the fence.** -/
theorem length_pagesOf_le (hnodup : ∀ w ∈ ws, (w.rows.map key).Nodup)
    (hopen : ∀ page ∈ (pagesOf key high after ws).dropLast, page ≠ []) {keys : List K}
    (hkeys : ∀ w ∈ ws, ∀ r ∈ w.rows, key r ≤ high → key r ∈ keys) :
    ws.length ≤ keys.length + 1 := by
  have hnodupKeys : ((pagesOf key high after ws).flatten.map key).Nodup :=
    (pairwise_pagesOf hnodup).imp fun h => h.ne
  have hsub : (pagesOf key high after ws).flatten.map key ⊆ keys := by
    intro k hk
    obtain ⟨r, hr, rfl⟩ := List.mem_map.mp hk
    obtain ⟨hahead, w, hw, hmem⟩ := ahead_of_mem_pagesOf hr
    exact hkeys w hw r hmem hahead.2
  have hle := (List.subperm_of_subset hnodupKeys hsub).length_le
  have hpages : ∀ pages : List (List Row), (∀ page ∈ pages, page ≠ []) →
      pages.length ≤ pages.flatten.length := by
    intro pages hne
    induction pages with
    | nil => simp
    | cons page pages ih =>
      obtain ⟨hpage, hrest⟩ := List.forall_mem_cons.mp hne
      have := ih hrest
      have := List.length_pos_of_ne_nil hpage
      rw [List.flatten_cons, List.length_append, List.length_cons]
      omega
  have hshort := hpages _ hopen
  have hflatten : (pagesOf key high after ws).dropLast.flatten.length ≤
      (pagesOf key high after ws).flatten.length := by
    obtain ⟨rest, hrest⟩ := List.dropLast_prefix (pagesOf key high after ws)
    conv_rhs => rw [← hrest]
    rw [List.flatten_append, List.length_append]
    omega
  rw [List.length_dropLast, length_pagesOf] at hshort
  rw [List.length_map] at hle
  omega

end Relational
