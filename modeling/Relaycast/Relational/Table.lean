import Mathlib.Data.List.Pairwise
import Mathlib.Data.List.Sort
import Mathlib.Data.Nat.Notation

/-!
# Tables with unique indexes

A table is the list of its rows in insertion order, together with the proof that no two of them
clash in a unique index.  The operations are the ones SQL has: select with a filter and an order,
update where, insert (or ignore on a conflict), delete where.  Each of them returns a table, so
uniqueness never has to be proved again; what remains to be said about an operation is which rows
it leaves, and those are the membership lemmas.
-/

namespace Relational

/-- The unique indexes of a kind of row: the columns they read, and when two rows may not be stored
together. -/
class Keyed (Row : Type) where
  Key : Type
  key : Row → Key
  clash : Key → Key → Bool
  clash_comm : ∀ k k', clash k k' = clash k' k

export Keyed (key clash)

/-- An index of one text column. -/
lemma text_clash_comm (k k' : String) : (k == k') = (k' == k) := BEq.comm

/-- An index of two text columns. -/
lemma texts_clash_comm (k k' : String × String) : (k == k') = (k' == k) := BEq.comm

/-- The rows of a table, in insertion order. -/
structure Table (Row : Type) [Keyed Row] where
  rows : List Row
  unique : (rows.map key).Pairwise fun k k' => clash k k' = false

namespace Table

variable {Row : Type} [Keyed Row]

instance : Membership Row (Table Row) where
  mem T r := r ∈ T.rows

lemma mem_def {r : Row} {T : Table Row} : r ∈ T ↔ r ∈ T.rows := Iff.rfl

/-- The table without rows. -/
def empty : Table Row where
  rows := []
  unique := .nil

@[simp] lemma not_mem_empty (r : Row) : ¬ r ∈ (empty : Table Row) := List.not_mem_nil

/-- **A unique index determines the row.** -/
theorem eq_of_clash {T : Table Row} {r s : Row} (hr : r ∈ T) (hs : s ∈ T)
    (h : clash (key r) (key s) = true) : r = s := by
  by_contra hne
  have hsymm : Std.Symm fun a b : Row => clash (key a) (key b) = false :=
    ⟨fun a b hab => by rw [Keyed.clash_comm]; exact hab⟩
  have hfalse : clash (key r) (key s) = false :=
    (List.pairwise_map.mp T.unique).forall hr hs hne
  simp [h] at hfalse

/-- What a unique index determines is distinct in all rows. -/
lemma nodup_map {β : Type} (T : Table Row) {f : Row → β}
    (hf : ∀ r s, f r = f s → clash (key r) (key s) = true) : (T.rows.map f).Nodup := by
  rw [List.Nodup, List.pairwise_map]
  refine (List.pairwise_map.mp T.unique).imp fun {r s} h heq => ?_
  rw [hf r s heq] at h
  simp at h

/-! ## Select -/

/-- `SELECT … WHERE p`. -/
def select (T : Table Row) (p : Row → Bool) : List Row := T.rows.filter p

@[simp] lemma mem_select {T : Table Row} {p : Row → Bool} {r : Row} :
    r ∈ T.select p ↔ r ∈ T ∧ p r = true := List.mem_filter

/-- The number of rows with `p`. -/
def count (T : Table Row) (p : Row → Bool) : ℕ := T.rows.countP p

/-! ## Update -/

/-- `UPDATE … SET f WHERE p`, where `f` leaves the indexed columns alone. -/
def update (T : Table Row) (p : Row → Bool) (f : Row → Row) (hf : ∀ r, key (f r) = key r) :
    Table Row where
  rows := T.rows.map fun r => if p r then f r else r
  unique := by
    have hkey : (T.rows.map fun r => if p r then f r else r).map key = T.rows.map key := by
      rw [List.map_map]
      refine List.map_congr_left fun r _ => ?_
      by_cases hp : p r = true <;> simp [hp, hf]
    rw [hkey]
    exact T.unique

lemma mem_update {T : Table Row} {p : Row → Bool} {f : Row → Row} {hf : ∀ r, key (f r) = key r}
    {s : Row} : s ∈ T.update p f hf ↔ ∃ r ∈ T, s = if p r then f r else r := by
  simp only [mem_def, update, List.mem_map, eq_comm]

/-- A row of the updated table is an old row the filter missed, or the image of one it hit. -/
lemma mem_update_cases {T : Table Row} {p : Row → Bool} {f : Row → Row}
    {hf : ∀ r, key (f r) = key r} {s : Row} (hs : s ∈ T.update p f hf) :
    (s ∈ T ∧ p s = false) ∨ ∃ r ∈ T, p r = true ∧ s = f r := by
  obtain ⟨r, hr, rfl⟩ := mem_update.mp hs
  by_cases hp : p r = true
  · exact .inr ⟨r, hr, hp, by simp [hp]⟩
  · exact .inl ⟨by simpa [hp] using hr, by simp [hp]⟩

/-- Looking a row up by columns the update keeps. -/
lemma find?_update {T : Table Row} {p : Row → Bool} {f : Row → Row} (hf : ∀ r, key (f r) = key r)
    {q : Row → Bool} (hq : ∀ r, q (f r) = q r) :
    (T.update p f hf).rows.find? q = (T.rows.find? q).map fun r => if p r then f r else r := by
  have hsame : (q ∘ fun r => if p r then f r else r) = q := by
    funext r
    by_cases hp : p r = true <;> simp [hp, hq]
  rw [update, List.find?_map, hsame]

/-- The rows `UPDATE … RETURNING` gives back. -/
def returning (T : Table Row) (p : Row → Bool) (f : Row → Row) : List Row :=
  (T.select p).map f

lemma mem_returning {T : Table Row} {p : Row → Bool} {f : Row → Row} {s : Row} :
    s ∈ T.returning p f ↔ ∃ r ∈ T, p r = true ∧ f r = s := by
  simp [returning, and_assoc]

/-- `UPDATE … SET f WHERE p` where `f` may change an indexed column; refused where the result would
break a unique index. -/
def updateChecked (T : Table Row) (p : Row → Bool) (f : Row → Row) : Option (Table Row) :=
  if h : ((T.rows.map fun r => if p r then f r else r).map key).Pairwise
      fun k k' => clash k k' = false then some ⟨_, h⟩ else none

lemma mem_updateChecked {T T' : Table Row} {p : Row → Bool} {f : Row → Row}
    (h : T.updateChecked p f = some T') {s : Row} :
    s ∈ T' ↔ ∃ r ∈ T, s = if p r then f r else r := by
  unfold updateChecked at h
  split_ifs at h
  obtain rfl := Option.some.inj h
  simp only [mem_def, List.mem_map, eq_comm]

/-! ## Insert -/

/-- Does a unique index forbid storing `r` beside the rows of `T`? -/
def conflicts (T : Table Row) (r : Row) : Bool := T.rows.any fun s => clash (key s) (key r)

/-- `INSERT` of a row no unique index forbids. -/
def insert (T : Table Row) (r : Row) (h : T.conflicts r = false) : Table Row where
  rows := T.rows ++ [r]
  unique := by
    rw [List.map_append, List.pairwise_append]
    refine ⟨T.unique, by simp, fun k hk k' hk' => ?_⟩
    obtain ⟨s, hs, rfl⟩ := List.mem_map.mp hk
    obtain rfl : k' = key r := by simpa using hk'
    simpa using List.any_eq_false.mp h s hs

/-- `INSERT … ON CONFLICT DO NOTHING`. -/
def insertOrIgnore (T : Table Row) (r : Row) : Table Row :=
  if h : T.conflicts r = false then T.insert r h else T

lemma mem_insertOrIgnore {T : Table Row} {r s : Row} (hs : s ∈ T.insertOrIgnore r) :
    s ∈ T ∨ (s = r ∧ T.conflicts r = false) := by
  unfold insertOrIgnore at hs
  split_ifs at hs with h
  · rcases List.mem_append.mp hs with hs | hs
    · exact .inl hs
    · exact .inr ⟨by simpa using hs, h⟩
  · exact .inl hs

lemma mem_insertOrIgnore_of_mem {T : Table Row} {r s : Row} (hs : s ∈ T) :
    s ∈ T.insertOrIgnore r := by
  unfold insertOrIgnore
  split_ifs with h
  · exact List.mem_append_left _ hs
  · exact hs

lemma mem_insertOrIgnore_self {T : Table Row} {r : Row} (h : T.conflicts r = false) :
    r ∈ T.insertOrIgnore r := by
  unfold insertOrIgnore
  rw [dif_pos h]
  exact List.mem_append_right _ (List.mem_singleton_self r)

/-! ## Delete -/

/-- `DELETE … WHERE p`. -/
def deleteWhere (T : Table Row) (p : Row → Bool) : Table Row where
  rows := T.rows.filter fun r => !p r
  unique := by
    rw [List.pairwise_map]
    exact (List.pairwise_map.mp T.unique).filter _

@[simp] lemma mem_deleteWhere {T : Table Row} {p : Row → Bool} {r : Row} :
    r ∈ T.deleteWhere p ↔ r ∈ T ∧ p r = false := by
  simp [mem_def, deleteWhere]

end Table

/-! ## Counting -/

section Count

variable {Row : Type}

/-- Replacing rows by rows that count at most as much does not raise a count. -/
lemma countP_map_le {rows : List Row} {p : Row → Bool} {g : Row → Row}
    (h : ∀ r ∈ rows, p (g r) = true → p r = true) : (rows.map g).countP p ≤ rows.countP p := by
  rw [List.countP_map]
  exact List.countP_mono_left h

/-- Counting what satisfies one of two conditions. -/
lemma countP_le_add {rows : List Row} {p p₁ p₂ : Row → Bool}
    (h : ∀ r ∈ rows, p r = true → p₁ r = true ∨ p₂ r = true) :
    rows.countP p ≤ rows.countP p₁ + rows.countP p₂ := by
  induction rows with
  | nil => simp
  | cons r rows ih =>
    have hrest := ih fun s hs => h s (List.mem_cons_of_mem _ hs)
    have hr := h r List.mem_cons_self
    simp only [List.countP_cons]
    split_ifs with hp h₁ h₂ <;> simp_all <;> omega

/-- Replacing the one row that is hit moves a count by what that row counted and counts. -/
lemma countP_map_of_unique {rows : List Row} {p q : Row → Bool} {f : Row → Row} {r : Row}
    (hnodup : rows.Nodup) (hr : r ∈ rows) (hp : ∀ s ∈ rows, p s = true ↔ s = r) :
    (rows.map fun s => if p s then f s else s).countP q + (q r).toNat =
      rows.countP q + (q (f r)).toNat := by
  induction rows with
  | nil => simp at hr
  | cons s rows ih =>
    obtain ⟨hs, hnodup⟩ := List.nodup_cons.mp hnodup
    by_cases heq : s = r
    · subst heq
      have hhit : p s = true := (hp s List.mem_cons_self).mpr rfl
      have hrest : (rows.map fun t => if p t then f t else t) = rows.map id := by
        refine List.map_congr_left fun t ht => ?_
        have hmiss : ¬ p t = true := fun h =>
          hs ((hp t (List.mem_cons_of_mem _ ht)).mp h ▸ ht)
        rw [if_neg hmiss, id]
      rw [List.map_cons, hrest, List.map_id]
      simp only [hhit, if_true, List.countP_cons]
      cases q s <;> cases q (f s) <;> simp
    · have hmiss : p s = false := by
        by_contra hhit
        exact heq ((hp s List.mem_cons_self).mp (by simpa using hhit))
      have hr' : r ∈ rows := (List.mem_cons.mp hr).resolve_left fun h => heq h.symm
      have hrows := ih hnodup hr' fun t ht => hp t (List.mem_cons_of_mem _ ht)
      simp only [List.map_cons, hmiss, Bool.false_eq_true, if_false, List.countP_cons]
      omega

/-- At most one row has a condition that no two rows of the list can have together. -/
lemma countP_le_one_of_pairwise {rows : List Row} {p : Row → Bool} {R : Row → Row → Prop}
    (hrows : rows.Pairwise R)
    (h : ∀ r ∈ rows, ∀ s ∈ rows, p r = true → p s = true → ¬ R r s) : rows.countP p ≤ 1 := by
  induction rows with
  | nil => simp
  | cons r rows ih =>
    obtain ⟨hr, hrows⟩ := List.pairwise_cons.mp hrows
    by_cases hp : p r = true
    · have hzero : rows.countP p = 0 := by
        refine List.countP_eq_zero.mpr fun s hs hps => ?_
        exact h r List.mem_cons_self s (List.mem_cons_of_mem _ hs) hp hps (hr s hs)
      rw [List.countP_cons_of_pos hp, hzero]
    · rw [List.countP_cons_of_neg hp]
      exact ih hrows fun s hs t ht =>
        h s (List.mem_cons_of_mem _ hs) t (List.mem_cons_of_mem _ ht)

end Count

/-- Joining rows to at most one partner each keeps what identifies them distinct. -/
lemma map_filterMap_sublist {α β γ : Type} {f : α → Option β} {g : β → γ} {h : α → γ}
    (hfg : ∀ a b, f a = some b → g b = h a) (xs : List α) :
    ((xs.filterMap f).map g).Sublist (xs.map h) := by
  induction xs with
  | nil => simp
  | cons x xs ih =>
    cases hx : f x with
    | none =>
      rw [List.filterMap_cons_none hx]
      exact ih.cons _
    | some b =>
      rw [List.filterMap_cons_some hx, List.map_cons, List.map_cons, hfg x b hx]
      exact ih.cons_cons _

end Relational
