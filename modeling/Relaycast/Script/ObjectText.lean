import Relaycast.Script.Dict
import Relaycast.Script.Json

/-!
# Objects and their texts

An object of JSON values, as a program holds it.  `JSON.stringify` visits its keys in the order in
which they are enumerated.  `JSON.parse` is a parameter, since it reads numbers; what is relied on
is that it reads back what `JSON.stringify` writes of values that a program can hold
(`JsonParse.parse_stringify`).  What it makes of other texts, and whether it accepts them, is open.
-/

namespace Script

/-! ## Keys -/

namespace Dict

variable {V : Type}

/-- `delete d[k]`. -/
def erase (d : Dict V) (k : String) : Dict V where
  entries := d.entries.filter fun entry => entry.1 != k
  nodup := d.nodup.sublist (List.filter_sublist.map Prod.fst)

/-- Are the keys in the order in which they are enumerated, of two that are array indexes? -/
def indexLe (entry entry' : String × V) : Bool :=
  decide (entry.1.toNat?.getD 0 ≤ entry'.1.toNat?.getD 0)

/-- `Object.entries(d)`. -/
def enumerated (d : Dict V) : Dict V where
  entries := (d.entries.filter (isIndex ·.1)).mergeSort indexLe ++
    d.entries.filter (!isIndex ·.1)
  nodup := by
    have hperm : ((d.entries.filter (isIndex ·.1)).mergeSort indexLe ++
        d.entries.filter (!isIndex ·.1)).Perm d.entries :=
      ((List.mergeSort_perm _ _).append_right _).trans (List.filter_append_perm _ _)
    exact ((hperm.map Prod.fst).nodup_iff).mpr d.nodup

variable {d : Dict V} {k k' : String} {v : V}

lemma mem_erase : (k', v) ∈ (d.erase k).entries ↔ k' ≠ k ∧ (k', v) ∈ d.entries := by
  simp [erase, and_comm]

/-- What is left when some keys are deleted one after the other. -/
lemma entries_foldl_erase (keys : List String) (d : Dict V) : (keys.foldl erase d).entries =
    d.entries.filter fun entry => decide (entry.1 ∉ keys) := by
  induction keys generalizing d with
  | nil => simp
  | cons key keys ih =>
    rw [List.foldl_cons, ih, erase, List.filter_filter]
    refine List.filter_congr fun entry _ => ?_
    by_cases hkey : entry.1 = key <;> simp [hkey]

lemma mem_enumerated {entry : String × V} : entry ∈ d.enumerated.entries ↔ entry ∈ d.entries := by
  simp only [enumerated, List.mem_append, List.mem_mergeSort, List.mem_filter]
  cases isIndex entry.1 <;> simp

/-- Dictionaries that hold the same have the same value for a key. -/
lemma get?_congr {d d' : Dict V} (h : ∀ v, (k, v) ∈ d.entries ↔ (k', v) ∈ d'.entries) :
    d.get? k = d'.get? k' := by
  refine Option.ext fun v => ?_
  rw [get?_eq_some, get?_eq_some, h v]

@[simp] lemma get?_enumerated (k : String) : d.enumerated.get? k = d.get? k :=
  get?_congr fun _ => mem_enumerated

lemma get?_set_ne (h : k' ≠ k) : (d.set k v).get? k' = d.get? k' :=
  get?_congr fun _ => by simp [mem_set, h]

@[simp] lemma get?_erase_self : (d.erase k).get? k = none :=
  get?_eq_none.mpr fun _ hv => (mem_erase.mp hv).1 rfl

lemma get?_erase_ne (h : k' ≠ k) : (d.erase k).get? k' = d.get? k' :=
  get?_congr fun _ => by simp [mem_erase, h]

end Dict

/-! ## Values that a program can hold -/

mutual

/-- The objects in the value have every key once, in the order in which keys are enumerated. -/
def Json.held : Json → Bool
  | .arr items => heldItems items
  | .obj fields =>
    if h : (fields.map Prod.fst).Nodup then
      decide ((Dict.mk fields h).enumerated.entries.map Prod.fst = fields.map Prod.fst) &&
        heldFields fields
    else false
  | .null => true
  | .bool _ => true
  | .num _ => true
  | .str _ => true

def heldItems : List Json → Bool
  | [] => true
  | v :: vs => v.held && heldItems vs

def heldFields : List (String × Json) → Bool
  | [] => true
  | (_, v) :: fields => v.held && heldFields fields

end

/-- An object of JSON values. -/
structure JsonObject where
  dict : Dict Json
  held : ∀ entry ∈ dict.entries, entry.2.held = true

namespace JsonObject

/-- `{}`. -/
def empty : JsonObject := ⟨.empty, by simp [Dict.empty]⟩

/-- `object[key]`, if it is its own. -/
def get? (o : JsonObject) (k : String) : Option Json := o.dict.get? k

/-- The object as it is read back from its text. -/
def enumerated (o : JsonObject) : JsonObject where
  dict := o.dict.enumerated
  held entry hentry := o.held entry (Dict.mem_enumerated.mp hentry)

/-- `JSON.stringify`. -/
def stringify (o : JsonObject) : List Char := render (.obj o.dict.enumerated.entries)

@[ext] lemma ext {o o' : JsonObject} (h : o.dict = o'.dict) : o = o' := by
  cases o
  cases o'
  congr

@[simp] lemma get?_enumerated (o : JsonObject) (k : String) : o.enumerated.get? k = o.get? k :=
  Dict.get?_enumerated k

/-- Objects of one text are read back as one object. -/
lemma enumerated_of_stringify {o o' : JsonObject} (h : o.stringify = o'.stringify) :
    o.enumerated = o'.enumerated := by
  have hentries := render_injective h
  exact JsonObject.ext (Dict.ext (Json.obj.inj hentries))

end JsonObject

/-- `JSON.parse`, of the texts of objects. -/
structure JsonParse where
  parse : List Char → Option JsonObject
  parse_stringify : ∀ o : JsonObject, parse o.stringify = some o.enumerated

/-- A text is read if it was written, and not otherwise. -/
noncomputable def JsonParse.ofWritten : JsonParse where
  parse text :=
    open Classical in
    if h : ∃ o : JsonObject, o.stringify = text then some h.choose.enumerated else none
  parse_stringify o := by
    have h : ∃ o' : JsonObject, o'.stringify = o.stringify := ⟨o, rfl⟩
    rw [dif_pos h, JsonObject.enumerated_of_stringify h.choose_spec]

end Script
