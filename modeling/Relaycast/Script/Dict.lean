import Mathlib.Algebra.Group.Nat.Defs
import Mathlib.Data.List.Nodup
import Mathlib.Data.List.Sort
import Mathlib.Data.Nat.Notation

/-!
# Objects as dictionaries

An object that a program uses as a dictionary: its own keys with their values, in the order in which
they were created.  Writing a key keeps its place or adds it at the end; enumeration visits the keys
that are array indexes first, in ascending order.  A dictionary that began as an object literal also
answers for the names it inherits, with something that is no value of the dictionary.
-/

namespace Script

/-- The own entries of an object, in the order of their creation. -/
structure Dict (V : Type) where
  entries : List (String × V)
  nodup : (entries.map Prod.fst).Nodup

/-- What an object literal inherits. -/
def objectPrototype : List String :=
  ["constructor", "__defineGetter__", "__defineSetter__", "hasOwnProperty", "__lookupGetter__",
    "__lookupSetter__", "isPrototypeOf", "propertyIsEnumerable", "toString", "valueOf",
    "__proto__", "toLocaleString"]

namespace Dict

variable {V : Type}

/-- `{}`. -/
def empty : Dict V := ⟨[], List.nodup_nil⟩

/-- The own value of a key. -/
def get? (d : Dict V) (k : String) : Option V :=
  (d.entries.find? fun entry => entry.1 == k).map Prod.snd

/-- `{ ...d, [k]: v }`. -/
def set (d : Dict V) (k : String) (v : V) : Dict V :=
  if h : k ∈ d.entries.map Prod.fst then
    { entries := d.entries.map fun entry => if entry.1 = k then (k, v) else entry
      nodup := by
        have hkeys : (d.entries.map fun entry => if entry.1 = k then (k, v) else entry).map Prod.fst
            = d.entries.map Prod.fst := by
          rw [List.map_map]
          refine List.map_congr_left fun entry _ => ?_
          by_cases hk : entry.1 = k <;> simp [hk]
        rw [hkeys]
        exact d.nodup }
  else
    { entries := d.entries ++ [(k, v)]
      nodup := by
        rw [List.map_append]
        exact d.nodup.append (List.nodup_singleton k) (by simpa using h) }

/-- Every value replaced, the keys in their places. -/
def mapValues (d : Dict V) (f : V → V) : Dict V where
  entries := d.entries.map fun entry => (entry.1, f entry.2)
  nodup := by
    rw [List.map_map]
    exact d.nodup

/-- Is the key an array index? -/
def isIndex (k : String) : Bool :=
  k != "" && k.toList.all Char.isDigit && (k == "0" || k.toList.head? != some '0') &&
    decide (k.toNat?.getD 0 < 2 ^ 32 - 1)

/-- `Object.keys(d)`. -/
def keys (d : Dict V) : List String :=
  ((d.entries.map Prod.fst).filter isIndex).mergeSort
      (fun k k' => decide (k.toNat?.getD 0 ≤ k'.toNat?.getD 0)) ++
    (d.entries.map Prod.fst).filter fun k => !isIndex k

variable {d : Dict V} {k k' : String} {v v' : V}

/-- One value for each key. -/
lemma eq_of_mem (h : (k, v) ∈ d.entries) (h' : (k, v') ∈ d.entries) : v = v' := by
  have hinj := List.inj_on_of_nodup_map d.nodup h h' rfl
  exact congrArg Prod.snd hinj

lemma get?_eq_some : d.get? k = some v ↔ (k, v) ∈ d.entries := by
  unfold get?
  rw [Option.map_eq_some_iff]
  constructor
  · rintro ⟨entry, hfind, rfl⟩
    have hkey : entry.1 = k := by simpa using List.find?_some hfind
    have hmem := List.mem_of_find?_eq_some hfind
    rwa [← hkey]
  · intro hmem
    cases hfind : d.entries.find? fun entry => entry.1 == k with
    | none => exact absurd (List.find?_eq_none.mp hfind _ hmem) (by simp)
    | some entry =>
      have hkey : entry.1 = k := by simpa using List.find?_some hfind
      have hentry : (k, entry.2) ∈ d.entries := hkey ▸ List.mem_of_find?_eq_some hfind
      exact ⟨entry, rfl, eq_of_mem hentry hmem⟩

lemma get?_eq_none : d.get? k = none ↔ ∀ v, (k, v) ∉ d.entries := by
  rw [Option.eq_none_iff_forall_not_mem]
  exact forall_congr' fun v => not_congr get?_eq_some

/-- What a dictionary holds after a key was written. -/
lemma mem_set : (k', v') ∈ (d.set k v).entries ↔
    (k' = k ∧ v' = v) ∨ (k' ≠ k ∧ (k', v') ∈ d.entries) := by
  unfold set
  split_ifs with hmem
  · simp only [List.mem_map]
    constructor
    · rintro ⟨⟨k₀, v₀⟩, hentry, heq⟩
      by_cases hk : k₀ = k
      · rw [if_pos hk, Prod.mk.injEq] at heq
        exact .inl ⟨heq.1.symm, heq.2.symm⟩
      · rw [if_neg hk, Prod.mk.injEq] at heq
        obtain ⟨rfl, rfl⟩ := heq
        exact .inr ⟨hk, hentry⟩
    · rintro (⟨rfl, rfl⟩ | ⟨hk, hentry⟩)
      · obtain ⟨⟨k₀, v₀⟩, hentry, rfl⟩ := List.mem_map.mp hmem
        exact ⟨(k₀, v₀), hentry, by simp⟩
      · exact ⟨(k', v'), hentry, by simp [hk]⟩
  · simp only [List.mem_append, List.mem_singleton, Prod.mk.injEq]
    constructor
    · rintro (hentry | heq)
      · refine .inr ⟨?_, hentry⟩
        rintro rfl
        exact hmem (List.mem_map.mpr ⟨_, hentry, rfl⟩)
      · exact .inl heq
    · rintro (heq | ⟨-, hentry⟩)
      · exact .inr heq
      · exact .inl hentry

@[simp] lemma get?_set_self : (d.set k v).get? k = some v :=
  get?_eq_some.mpr (mem_set.mpr (.inl ⟨rfl, rfl⟩))

@[simp] lemma mem_mapValues {f : V → V} :
    (k, v) ∈ (d.mapValues f).entries ↔ ∃ v₀, (k, v₀) ∈ d.entries ∧ f v₀ = v := by
  simp only [mapValues, List.mem_map, Prod.mk.injEq]
  constructor
  · rintro ⟨⟨k₀, v₀⟩, hentry, rfl, rfl⟩
    exact ⟨v₀, hentry, rfl⟩
  · rintro ⟨v₀, hentry, rfl⟩
    exact ⟨(k, v₀), hentry, rfl, rfl⟩

/-- The keys that are enumerated are the own keys. -/
lemma mem_keys : k ∈ d.keys ↔ ∃ v, (k, v) ∈ d.entries := by
  have hown : k ∈ d.entries.map Prod.fst ↔ ∃ v, (k, v) ∈ d.entries := by simp
  rw [← hown]
  simp only [keys, List.mem_append, List.mem_mergeSort, List.mem_filter]
  cases isIndex k <;> simp

@[ext] lemma ext {d d' : Dict V} (h : d.entries = d'.entries) : d = d' := by
  cases d
  cases d'
  congr

/-- Writing what is there changes nothing. -/
lemma set_of_get? (h : d.get? k = some v) : d.set k v = d := by
  have hmem := get?_eq_some.mp h
  have hkey : k ∈ d.entries.map Prod.fst := List.mem_map.mpr ⟨_, hmem, rfl⟩
  apply Dict.ext
  unfold set
  rw [dif_pos hkey]
  refine (List.map_congr_left fun entry hentry => ?_).trans (List.map_id _)
  split_ifs with hk
  · obtain ⟨k₀, v₀⟩ := entry
    obtain rfl : k₀ = k := hk
    rw [eq_of_mem hentry hmem]
    rfl
  · rfl

/-- Replacing every value by itself changes nothing. -/
lemma mapValues_self {f : V → V} (h : ∀ k v, (k, v) ∈ d.entries → f v = v) : d.mapValues f = d := by
  apply Dict.ext
  refine (List.map_congr_left fun entry hentry => ?_).trans (List.map_id _)
  rw [h entry.1 entry.2 hentry, id]

end Dict

end Script
