import Mathlib.Data.List.Perm.Basic
import Relaycast.Script.CodeUnits

/-!
# Canonical texts of all JSON values

The canonical text of a value is its JSON text with the keys of every object in the order of their
code units.  Requests that are replayed and results that are reported again are compared by it.

Here the strings are lists of code units, so that every string the language has is one.  A text
comes apart into the texts of the parts (`reordered_of_canonicalJson`), with the fields of an object
in order; what two equal texts leave open is the order that the fields had before.  The other way, a
key stands once in an object, so there is one order to write its fields in (`Reordered.text_eq`).
-/

namespace CanonicalJson

open Script

/-- What the text of a value is built from. -/
inductive Tree
  | null
  | bool (b : Bool)
  | num (n : NumberText)
  | str (s : List CodeUnit)
  | arr (items : List Tree)
  | obj (fields : List (List CodeUnit × Tree))

/-- A property of all trees, from that of their items and of the values of their fields. -/
@[elab_as_elim]
theorem Tree.induction {motive : Tree → Prop} (null : motive .null) (bool : ∀ b, motive (.bool b))
    (num : ∀ n, motive (.num n)) (str : ∀ s, motive (.str s))
    (arr : ∀ items, (∀ v ∈ items, motive v) → motive (.arr items))
    (obj : ∀ fields, (∀ field ∈ fields, motive field.2) → motive (.obj fields)) (v : Tree) :
    motive v := by
  refine @Tree.rec motive (fun items => ∀ v ∈ items, motive v)
    (fun fields => ∀ field ∈ fields, motive field.2) (fun field => motive field.2) null bool num
    str arr obj ?_ ?_ ?_ ?_ ?_ v
  · simp
  · intro v vs hv hvs
    exact List.forall_mem_cons.mpr ⟨hv, hvs⟩
  · simp
  · intro field fields hfield hfields
    exact List.forall_mem_cons.mpr ⟨hfield, hfields⟩
  · intro key val hval
    exact hval

/-- Every key stands once in its object. -/
inductive Tree.Keyed : Tree → Prop
  | null : Keyed .null
  | bool (b : Bool) : Keyed (.bool b)
  | num (n : NumberText) : Keyed (.num n)
  | str (s : List CodeUnit) : Keyed (.str s)
  | arr {items : List Tree} : (∀ v ∈ items, Keyed v) → Keyed (.arr items)
  | obj {fields : List (List CodeUnit × Tree)} : (fields.map Prod.fst).Nodup →
      (∀ field ∈ fields, Keyed field.2) → Keyed (.obj fields)

/-- A JSON value. -/
structure JsonValue where
  tree : Tree
  keyed : tree.Keyed

/-- The values are equal up to the order of the keys of objects: the fields of one object, listed in
some order, are those of the other one by one. -/
inductive Reordered : Tree → Tree → Prop
  | null : Reordered .null .null
  | bool (b : Bool) : Reordered (.bool b) (.bool b)
  | num (n : NumberText) : Reordered (.num n) (.num n)
  | str (s : List CodeUnit) : Reordered (.str s) (.str s)
  | arr {items items' : List Tree} :
      List.Forall₂ Reordered items items' → Reordered (.arr items) (.arr items')
  | obj {fields listed fields' : List (List CodeUnit × Tree)} : fields.Perm listed →
      listed.map Prod.fst = fields'.map Prod.fst →
      List.Forall₂ Reordered (listed.map Prod.snd) (fields'.map Prod.snd) →
      Reordered (.obj fields) (.obj fields')

/-! ## The code -/

/-- The order of `Object.keys(record).sort()`. -/
def keyLe {α : Type} (f f' : List CodeUnit × α) : Prop := f.1 ≤ f'.1

instance {α : Type} : DecidableRel (keyLe : List CodeUnit × α → List CodeUnit × α → Prop) :=
  fun f f' => inferInstanceAs (Decidable (f.1 ≤ f'.1))

/-- A field of an object. -/
def fieldText (key : List CodeUnit) (text : List Char) : List Char := quoteUnits key ++ ':' :: text

mutual

/-- `canonicalJson` of the actions. -/
def canonicalJson : Tree → List Char
  | .null => "null".toList
  | .bool true => "true".toList
  | .bool false => "false".toList
  | .num n => n.chars
  | .str s => quoteUnits s
  | .arr items => '[' :: commaJoin (canonicalItems items) ++ [']']
  | .obj fields =>
    '{' :: commaJoin (((canonicalFields fields).insertionSort keyLe).map fun f =>
      fieldText f.1 f.2) ++ ['}']

def canonicalItems : List Tree → List (List Char)
  | [] => []
  | v :: vs => canonicalJson v :: canonicalItems vs

def canonicalFields : List (List CodeUnit × Tree) → List (List CodeUnit × List Char)
  | [] => []
  | (k, v) :: fs => (k, canonicalJson v) :: canonicalFields fs

end

/-- `canonical` of the task invocations, which is written alike. -/
def canonical : Tree → List Char := canonicalJson

/-! ## The text of a value from the texts of its parts -/

lemma canonicalItems_eq (items : List Tree) : canonicalItems items = items.map canonicalJson := by
  induction items with
  | nil => rfl
  | cons v vs ih => rw [canonicalItems, ih, List.map_cons]

lemma canonicalFields_eq (fields : List (List CodeUnit × Tree)) :
    canonicalFields fields = fields.map fun f => (f.1, canonicalJson f.2) := by
  induction fields with
  | nil => rfl
  | cons f fs ih => rw [canonicalFields, ih, List.map_cons]

lemma canonicalJson_arr (items : List Tree) :
    canonicalJson (.arr items) = '[' :: commaJoin (items.map canonicalJson) ++ [']'] := by
  rw [canonicalJson, canonicalItems_eq]

lemma canonicalJson_obj (fields : List (List CodeUnit × Tree)) : canonicalJson (.obj fields) =
    '{' :: commaJoin ((fields.insertionSort keyLe).map fun f =>
      fieldText f.1 (canonicalJson f.2)) ++ ['}'] := by
  rw [canonicalJson, canonicalFields_eq,
    ← List.map_insertionSort keyLe keyLe (fun f => (f.1, canonicalJson f.2)) fields
      fun a _ b _ => Iff.rfl, List.map_map]
  rfl

/-- The kind of a value, as the first character of its text has it. -/
def Tree.kind : Tree → ℕ
  | .null => 0
  | .bool true => 1
  | .bool false => 2
  | .num _ => 3
  | .str _ => 4
  | .arr _ => 5
  | .obj _ => 6

/-- The first character of a text tells the kind of the value. -/
lemma canonicalJson_head (v : Tree) :
    ∃ c tail, canonicalJson v = c :: tail ∧ kindOf c = v.kind := by
  match v with
  | .null => exact ⟨'n', _, render_null, by decide⟩
  | .bool true => exact ⟨'t', _, render_true, by decide⟩
  | .bool false => exact ⟨'f', _, render_false, by decide⟩
  | .num n =>
    obtain ⟨c, tail, hc⟩ := List.exists_cons_of_ne_nil n.nonempty
    exact ⟨c, tail, hc, kindOf_numeric c (n.numeric c (by simp [hc]))⟩
  | .str s => exact ⟨'"', _, rfl, rfl⟩
  | .arr items => exact ⟨'[', _, rfl, rfl⟩
  | .obj fields => exact ⟨'{', _, rfl, rfl⟩

lemma kind_eq_of_canonicalJson {v v' : Tree} {rest rest' : List Char}
    (h : canonicalJson v ++ rest = canonicalJson v' ++ rest') : v.kind = v'.kind := by
  obtain ⟨c, tail, hc, hkind⟩ := canonicalJson_head v
  obtain ⟨c', tail', hc', hkind'⟩ := canonicalJson_head v'
  rw [hc, hc', List.cons_append, List.cons_append] at h
  rw [← hkind, ← hkind', (List.cons.inj h).1]

/-- No text starts with a closing bracket. -/
lemma canonicalJson_head_ne {close : Char} (hclose : kindOf close = 7) (v : Tree) :
    ∃ c tail, canonicalJson v = c :: tail ∧ c ≠ close := by
  obtain ⟨c, tail, hc, hkind⟩ := canonicalJson_head v
  refine ⟨c, tail, hc, ?_⟩
  rintro rfl
  have : v.kind < 7 := by
    match v with
    | .null | .bool true | .bool false | .num _ | .str _ | .arr _ | .obj _ => simp [Tree.kind]
  omega

/-! ## Equal texts -/

/-- The fields of two objects agree one by one. -/
def Alike (f f' : List CodeUnit × Tree) : Prop := f.1 = f'.1 ∧ Reordered f.2 f'.2

lemma forall₂_alike_iff {fields fields' : List (List CodeUnit × Tree)} :
    List.Forall₂ Alike fields fields' ↔ fields.map Prod.fst = fields'.map Prod.fst ∧
      List.Forall₂ Reordered (fields.map Prod.snd) (fields'.map Prod.snd) := by
  induction fields generalizing fields' with
  | nil => cases fields' <;> simp
  | cons f fs ih =>
    cases fields' with
    | nil => simp
    | cons f' fs' =>
      simp only [List.forall₂_cons, List.map_cons, List.cons.injEq, ih, Alike]
      tauto

/-- Objects whose sorted fields agree are equal up to the order of their fields. -/
lemma Reordered.of_sorted {fields fields' : List (List CodeUnit × Tree)}
    (h : List.Forall₂ Alike (fields.insertionSort keyLe) (fields'.insertionSort keyLe)) :
    Reordered (.obj fields) (.obj fields') := by
  -- undo the sorting of the second object, and move the fields of the first along
  have hcomp : Relation.Comp (List.Forall₂ Alike) List.Perm (fields.insertionSort keyLe) fields' :=
    ⟨_, h, List.perm_insertionSort _ _⟩
  rw [List.forall₂_comp_perm_eq_perm_comp_forall₂] at hcomp
  obtain ⟨listed, hperm, halike⟩ := hcomp
  obtain ⟨hkeys, hvalues⟩ := forall₂_alike_iff.mp halike
  exact .obj ((List.perm_insertionSort _ _).symm.trans hperm) hkeys hvalues

/-- **A text can be told from what follows it, and determines the value up to order.** -/
theorem reordered_of_canonicalJson (v : Tree) : ∀ (v' : Tree) (rest rest' : List Char),
    Stops rest → Stops rest' → canonicalJson v ++ rest = canonicalJson v' ++ rest' →
      Reordered v v' ∧ rest = rest' := by
  induction v using Tree.induction with
  | null =>
    intro v' rest rest' _ _ h
    match v', kind_eq_of_canonicalJson h with
    | .null, _ => exact ⟨.null, List.append_cancel_left h⟩
  | bool b =>
    intro v' rest rest' _ _ h
    have hkind := kind_eq_of_canonicalJson h
    match b, v', hkind with
    | true, .bool true, _ => exact ⟨.bool true, List.append_cancel_left h⟩
    | false, .bool false, _ => exact ⟨.bool false, List.append_cancel_left h⟩
  | num n =>
    intro v' rest rest' hrest hrest' h
    match v', kind_eq_of_canonicalJson h with
    | .num n', _ =>
      obtain ⟨rfl, hdone⟩ := NumberText.cancel hrest hrest' h
      exact ⟨.num n, hdone⟩
  | str s =>
    intro v' rest rest' _ _ h
    match v', kind_eq_of_canonicalJson h with
    | .str s', _ =>
      obtain ⟨rfl, hdone⟩ := quoteUnits_cancel h
      exact ⟨.str s, hdone⟩
  | arr items ih =>
    intro v' rest rest' _ _ h
    match v', kind_eq_of_canonicalJson h with
    | .arr items', _ =>
      simp only [canonicalJson_arr, List.cons_append, List.append_assoc, List.nil_append,
        List.cons.injEq, true_and] at h
      obtain ⟨hitems, hdone⟩ := forall₂_of_commaJoin (by decide) (by decide)
        (canonicalJson_head_ne (by decide)) items items' ih rest rest' h
      exact ⟨.arr hitems, hdone⟩
  | obj fields ih =>
    intro v' rest rest' _ _ h
    match v', kind_eq_of_canonicalJson h with
    | .obj fields', _ =>
      simp only [canonicalJson_obj, List.cons_append, List.append_assoc, List.nil_append,
        List.cons.injEq, true_and] at h
      have hfield : ∀ f ∈ fields.insertionSort keyLe, ∀ f' rest rest', Stops rest → Stops rest' →
          fieldText f.1 (canonicalJson f.2) ++ rest = fieldText f'.1 (canonicalJson f'.2) ++ rest' →
            Alike f f' ∧ rest = rest' := by
        intro f hf f' rest rest' hrest hrest' htext
        simp only [fieldText, List.append_assoc, List.cons_append] at htext
        obtain ⟨hkey, htext⟩ := quoteUnits_cancel htext
        obtain ⟨hvalue, hdone⟩ := ih f ((List.perm_insertionSort _ _).mem_iff.mp hf) f'.2 rest rest'
          hrest hrest' (List.cons.inj htext).2
        exact ⟨⟨hkey, hvalue⟩, hdone⟩
      obtain ⟨hsorted, hdone⟩ := forall₂_of_commaJoin (by decide) (by decide)
        (fun f => ⟨'"', _, rfl, by decide⟩) _ _ hfield rest rest' h
      exact ⟨.of_sorted hsorted, hdone⟩

/-! ## Values that differ in the order of keys -/

/-- There is one order to write fields in, where no key stands twice. -/
lemma insertionSort_eq_of_perm {α : Type} {fields fields' : List (List CodeUnit × α)}
    (h : fields.Perm fields') (hkeys : (fields.map Prod.fst).Nodup) :
    fields.insertionSort keyLe = fields'.insertionSort keyLe := by
  have htrans : IsTrans (List CodeUnit × α) keyLe := ⟨fun f f' f'' h h' => le_trans h h'⟩
  have htotal : Std.Total (keyLe : List CodeUnit × α → List CodeUnit × α → Prop) :=
    ⟨fun _ _ => le_total _ _⟩
  have hsorted : (fields.insertionSort keyLe).Perm (fields'.insertionSort keyLe) :=
    (List.perm_insertionSort _ _).trans (h.trans (List.perm_insertionSort _ _).symm)
  refine hsorted.eq_of_pairwise ?_ (List.pairwise_insertionSort _ _)
    (List.pairwise_insertionSort _ _)
  intro f f' hf hf' hle hle'
  refine List.inj_on_of_nodup_map hkeys ((List.perm_insertionSort _ _).mem_iff.mp hf)
    (h.mem_iff.mpr ((List.perm_insertionSort _ _).mem_iff.mp hf')) ?_
  exact le_antisymm hle hle'

lemma map_eq_of_forall₂ {α β γ : Type} {R : α → β → Prop} {g : α → γ} {g' : β → γ} {xs : List α}
    {ys : List β} (h : List.Forall₂ R xs ys) (hg : ∀ x ∈ xs, ∀ y, R x y → g x = g' y) :
    xs.map g = ys.map g' := by
  induction h with
  | nil => rfl
  | cons hxy _ ih =>
    rw [List.map_cons, List.map_cons, hg _ List.mem_cons_self _ hxy,
      ih fun x hx => hg x (List.mem_cons_of_mem _ hx)]

/-- **Values that are equal up to the order of keys have one text.** -/
theorem Reordered.text_eq {v : Tree} : v.Keyed → ∀ {v' : Tree}, Reordered v v' →
    canonicalJson v = canonicalJson v' := by
  induction v using Tree.induction with
  | null | bool | num | str =>
    intro _ v' h
    cases h
    rfl
  | arr items ih =>
    intro hkeyed v' h
    cases hkeyed with
    | arr hitems =>
      cases h with
      | arr hsame =>
        rw [canonicalJson_arr, canonicalJson_arr,
          map_eq_of_forall₂ hsame fun v hv v' hv' => ih v hv (hitems v hv) hv']
  | obj fields ih =>
    intro hkeyed v' h
    cases hkeyed with
    | obj hkeys hvalues =>
      cases h with
      | @obj _ listed fields' hperm hfst hsnd =>
        have hlisted : (listed.map fun f => (f.1, canonicalJson f.2)) =
            fields'.map fun f => (f.1, canonicalJson f.2) := by
          refine map_eq_of_forall₂ (forall₂_alike_iff.mpr ⟨hfst, hsnd⟩) ?_
          rintro f hf f' ⟨hkey, hvalue⟩
          have hmem := hperm.mem_iff.mpr hf
          exact Prod.ext hkey (ih f hmem (hvalues f hmem) hvalue)
        have htexts := (hperm.map fun f => (f.1, canonicalJson f.2)).trans (.of_eq hlisted)
        rw [canonicalJson, canonicalJson, canonicalFields_eq, canonicalFields_eq,
          insertionSort_eq_of_perm htexts (by rwa [List.map_map])]

/-- **Two JSON values have the same canonical text exactly if they are equal up to the order of the
keys of objects, at every depth.** -/
theorem canonical_texts_eq_iff (a b : JsonValue) :
    (canonicalJson a.tree = canonicalJson b.tree ↔ Reordered a.tree b.tree) ∧
    (canonical a.tree = canonical b.tree ↔ Reordered a.tree b.tree) := by
  have hiff : canonicalJson a.tree = canonicalJson b.tree ↔ Reordered a.tree b.tree := by
    constructor
    · intro h
      exact (reordered_of_canonicalJson a.tree b.tree [] [] stops_nil stops_nil (by rw [h])).1
    · exact Reordered.text_eq a.keyed
  exact ⟨hiff, hiff⟩

end CanonicalJson
