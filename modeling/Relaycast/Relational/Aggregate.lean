import Mathlib.Algebra.BigOperators.Group.List.Defs
import Mathlib.Order.MinMax
import Mathlib.Data.List.Dedup
import Mathlib.Data.Nat.Notation
import Mathlib.Data.String.Basic

/-!
# Aggregates of SQL

`sum` and `max` are null where there is nothing to aggregate, and `max` passes over nulls.
`GROUP BY` gives one row for each value of its expression, in ascending order; a column that is
neither grouped by nor aggregated is taken from one of the rows of the group, and the engine chooses
which.
-/

namespace Relational

/-- `sum(…)`. -/
def sqlSum {α : Type} [AddMonoid α] (xs : List α) : Option α :=
  if xs.isEmpty then none else some xs.sum

/-- `max(…)`. -/
def sqlMax {α : Type} [Max α] (xs : List (Option α)) : Option α := (xs.filterMap id).max?

/-- A function that sums up as it goes. -/
lemma foldl_add_eq_sum {α β : Type} [AddMonoid β] (f : α → β) (xs : List α) (b : β) :
    xs.foldl (fun total x => total + f x) b = b + (xs.map f).sum := by
  induction xs generalizing b with
  | nil => simp
  | cons x xs ih => rw [List.foldl_cons, ih, List.map_cons, List.sum_cons, add_assoc]

/-- `COALESCE(sum(…), 0)`. -/
lemma coalesce_sqlSum {α : Type} [AddMonoid α] (xs : List α) : (sqlSum xs).getD 0 = xs.sum := by
  cases xs <;> simp [sqlSum]

/-- The later of what was found and what comes next. -/
def laterOf {α : Type} [LT α] [DecidableLT α] (latest next : Option α) : Option α :=
  match next, latest with
  | none, latest => latest
  | some t, none => some t
  | some t, some l => if l < t then some t else some l

/-- A function that keeps the latest as it goes. -/
lemma foldl_laterOf {α β : Type} [LinearOrder α] (f : β → Option α) (xs : List β)
    (latest : Option α) : xs.foldl (fun latest x => laterOf latest (f x)) latest =
      (latest.toList ++ (xs.map f).filterMap id).max? := by
  induction xs generalizing latest with
  | nil => cases latest <;> simp
  | cons x xs ih =>
    rw [List.foldl_cons, ih, List.map_cons]
    cases hx : f x with
    | none => simp [laterOf]
    | some t =>
      cases latest with
      | none => simp [laterOf]
      | some l =>
        have hmax : laterOf (some l) (some t) = some (max l t) := by
          show (if l < t then some t else some l) = _
          split_ifs with hlt
          · rw [max_eq_right hlt.le]
          · rw [max_eq_left (not_lt.mp hlt)]
        rw [hmax, List.filterMap_cons_some (show id (some t) = some t from rfl)]
        simp only [Option.toList_some, List.singleton_append, List.max?_cons', List.foldl_cons]

/-- A monotone function of the greatest. -/
lemma max?_map_of_monotone {α β : Type} [LinearOrder α] [LinearOrder β] {f : α → β}
    (hf : Monotone f) (xs : List α) : (xs.map f).max? = xs.max?.map f := by
  cases xs with
  | nil => rfl
  | cons x xs =>
    rw [List.map_cons, List.max?_cons', List.max?_cons', Option.map_some, Option.some.injEq]
    induction xs generalizing x with
    | nil => rfl
    | cons y xs ih => rw [List.map_cons, List.foldl_cons, List.foldl_cons, ← hf.map_max, ih]

/-! ## Groups -/

/-- Which row of a group the engine takes a column from. -/
structure BareColumn (Row : Type) where
  pick : (group : List Row) → group ≠ [] → Row
  pick_mem : ∀ group h, pick group h ∈ group

/-- The values of the expression, each once, in ascending order. -/
def groupKeys {Row : Type} (key : Row → String) (rows : List Row) : List String :=
  ((rows.map key).mergeSort fun k k' => decide (k ≤ k')).dedup

lemma mem_groupKeys {Row : Type} {key : Row → String} {rows : List Row} {k : String} :
    k ∈ groupKeys key rows ↔ ∃ r ∈ rows, key r = k := by
  simp [groupKeys]

/-- The rows with one value. -/
def groupOf {Row : Type} (key : Row → String) (rows : List Row) (k : String) : List Row :=
  rows.filter fun r => key r == k

lemma groupOf_ne_nil {Row : Type} {key : Row → String} {rows : List Row} {k : String}
    (h : k ∈ groupKeys key rows) : groupOf key rows k ≠ [] := by
  obtain ⟨r, hr, hk⟩ := mem_groupKeys.mp h
  exact List.ne_nil_of_mem (List.mem_filter.mpr ⟨hr, by simpa using hk⟩)

/-- `SELECT row … GROUP BY key`. -/
def BareColumn.groupBy {Row : Type} (B : BareColumn Row) (key : Row → String) (rows : List Row) :
    List Row :=
  (groupKeys key rows).attach.map fun k =>
    B.pick (groupOf key rows k.val) (groupOf_ne_nil k.property)

section GroupBy

variable {Row : Type} (B : BareColumn Row) (key : Row → String) (rows : List Row)

/-- The row of a group is one of its rows. -/
lemma BareColumn.pick_groupOf {k : String} (h : k ∈ groupKeys key rows) :
    B.pick (groupOf key rows k) (groupOf_ne_nil h) ∈ rows ∧
      key (B.pick (groupOf key rows k) (groupOf_ne_nil h)) = k := by
  have hmem := List.mem_filter.mp (B.pick_mem _ (groupOf_ne_nil h))
  exact ⟨hmem.1, by simpa using hmem.2⟩

/-- **One row for each value.** -/
theorem BareColumn.map_key_groupBy : (B.groupBy key rows).map key = groupKeys key rows := by
  rw [groupBy, List.map_map]
  conv_rhs => rw [← List.attach_map_subtype_val (groupKeys key rows)]
  exact List.map_congr_left fun k _ => (B.pick_groupOf key rows k.property).2

lemma BareColumn.groupBy_subset : B.groupBy key rows ⊆ rows := by
  intro r hr
  obtain ⟨k, -, rfl⟩ := List.mem_map.mp hr
  exact (B.pick_groupOf key rows k.property).1

end GroupBy

end Relational
