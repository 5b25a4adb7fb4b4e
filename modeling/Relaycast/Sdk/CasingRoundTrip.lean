import Relaycast.Sdk.Casing

/-!
# The casing of keys is undone

Renaming keys and renaming them back gives the value that was there (`casing_roundTrip`), from snake
case to camel case and back as well as the other way round.  It takes three facts about the renaming
of one key (`Renaming`): it has an inverse on the keys in question, it makes no key that objects
treat specially, and it tells the verbatim fields apart like the original.
-/

namespace Sdk.Casing

open Script

/-! ## Values -/

mutual

/-- No object of the value has a key twice. -/
def distinctKeys : Json → Bool
  | .arr items => distinctItems items
  | .obj fields => decide (fields.map Prod.fst).Nodup && distinctFields fields
  | _ => true

def distinctItems : List Json → Bool
  | [] => true
  | item :: items => distinctKeys item && distinctItems items

def distinctFields : List (String × Json) → Bool
  | [] => true
  | field :: fields => distinctKeys field.2 && distinctFields fields

end

mutual

/-- Every key outside verbatim fields satisfies `P`. -/
def keysSatisfy (P : String → Bool) : Json → Bool
  | .arr items => itemsSatisfy P items
  | .obj fields => fieldsSatisfy P fields
  | _ => true

def itemsSatisfy (P : String → Bool) : List Json → Bool
  | [] => true
  | item :: items => keysSatisfy P item && itemsSatisfy P items

def fieldsSatisfy (P : String → Bool) : List (String × Json) → Bool
  | [] => true
  | field :: fields =>
    P field.1 && (isVerbatim field.1 || keysSatisfy P field.2) && fieldsSatisfy P fields

end

/-- A value whose objects have each key once, as all values of the language. -/
abbrev JsonValue := { v : Json // distinctKeys v = true }

/-- One step into a value. -/
inductive Step
  | index (i : ℕ)
  | field (key : String)

/-- What stands at a path. -/
def valueAt : Json → List Step → Option Json
  | v, [] => some v
  | .arr items, .index i :: path => items[i]?.bind fun item => valueAt item path
  | .obj fields, .field key :: path => (fields.lookup key).bind fun val => valueAt val path
  | _, _ :: _ => none

lemma valueAt_append (path path' : List Step) : ∀ v : Json,
    valueAt v (path ++ path') = (valueAt v path).bind fun w => valueAt w path' := by
  induction path with
  | nil => exact fun _ => by simp [valueAt]
  | cons step path ih =>
    intro v
    cases v <;> cases step <;> simp [valueAt, ih, Option.bind_assoc]

/-- The step after the keys were renamed. -/
def Step.rename (rename : String → String) : Step → Step
  | .index i => .index i
  | .field key => .field (rename key)

/-- Does the path lead through no verbatim field? -/
def Step.outside : Step → Bool
  | .index _ => true
  | .field key => !isVerbatim key

/-- Renaming keys there and back gives the value that was there; on the way no two keys of an object
become one, and verbatim fields keep their values. -/
structure RoundTrip (transform restore : Json → Json) (rename : String → String) (v : Json) :
    Prop where
  inverse : restore (transform v) = v
  distinct : ∀ path fields, path.all Step.outside = true → valueAt v path = some (.obj fields) →
    ∃ fields', valueAt (transform v) (path.map (Step.rename rename)) = some (.obj fields') ∧
      fields'.map Prod.fst = fields.map (fun field => rename field.1) ∧
        (fields'.map Prod.fst).Nodup
  verbatim : ∀ path key x, path.all Step.outside = true → isVerbatim key = true →
    valueAt v (path ++ [.field key]) = some x →
      valueAt (transform v) (path.map (Step.rename rename) ++ [.field (rename key)]) = some x ∧
        valueAt (restore (transform v)) (path ++ [.field key]) = some x

/-! ## Reading the conditions -/

lemma distinctItems_iff {items : List Json} :
    distinctItems items = true ↔ ∀ v ∈ items, distinctKeys v = true := by
  induction items with
  | nil => simp [distinctItems]
  | cons v vs ih => simp [distinctItems, ih]

lemma distinctFields_iff {fields : List (String × Json)} :
    distinctFields fields = true ↔ ∀ field ∈ fields, distinctKeys field.2 = true := by
  induction fields with
  | nil => simp [distinctFields]
  | cons field fields ih => simp only [distinctFields, Bool.and_eq_true, ih, List.forall_mem_cons]

variable {P : String → Bool}

lemma itemsSatisfy_iff {items : List Json} :
    itemsSatisfy P items = true ↔ ∀ v ∈ items, keysSatisfy P v = true := by
  induction items with
  | nil => simp [itemsSatisfy]
  | cons v vs ih => simp [itemsSatisfy, ih]

lemma fieldsSatisfy_iff {fields : List (String × Json)} : fieldsSatisfy P fields = true ↔
    ∀ field ∈ fields, P field.1 = true ∧
      (isVerbatim field.1 = false → keysSatisfy P field.2 = true) := by
  induction fields with
  | nil => simp [fieldsSatisfy]
  | cons field fields ih =>
    simp only [fieldsSatisfy, Bool.and_eq_true, ih, List.forall_mem_cons, Bool.or_eq_true]
    cases isVerbatim field.1 <;> simp

lemma distinctKeys_obj {fields : List (String × Json)} : distinctKeys (.obj fields) = true ↔
    (fields.map Prod.fst).Nodup ∧ ∀ field ∈ fields, distinctKeys field.2 = true := by
  simp only [distinctKeys, Bool.and_eq_true, decide_eq_true_eq, distinctFields_iff]

/-! ## Writing the fields of an object -/

section Fields

variable {rename : String → String}

/-- A field with its key renamed. -/
def renamed (rename : String → String) (field : String × Json) : String × Json :=
  (rename field.1, if isVerbatim field.1 then field.2 else renameKeys rename field.2)

lemma renameItems_eq (items : List Json) : renameItems rename items = items.map (renameKeys rename) := by
  induction items with
  | nil => rfl
  | cons item items ih => rw [renameItems, ih, List.map_cons]

lemma assign_new {out : List (String × Json)} {key : String} {val : Json} (hproto : key ≠ "__proto__")
    (hnew : key ∉ out.map Prod.fst) : assign out key val = out ++ [(key, val)] := by
  have habsent : ¬ out.any (·.1 == key) = true := fun h => by
    obtain ⟨field, hfield, hkey⟩ := List.any_eq_true.mp h
    exact hnew (List.mem_map.mpr ⟨field, hfield, beq_iff_eq.mp hkey⟩)
  rw [assign, if_neg hproto, if_neg habsent]

/-- Where the new keys are distinct, every field is written to the end. -/
lemma renameFields_eq : ∀ (fields out : List (String × Json)),
    (out.map Prod.fst ++ fields.map fun field => rename field.1).Nodup →
    (∀ field ∈ fields, rename field.1 ≠ "__proto__") →
    renameFields rename fields out = out ++ fields.map (renamed rename)
  | [], out, _, _ => by rw [renameFields, List.map_nil, List.append_nil]
  | (key, val) :: fields, out, hnodup, hproto => by
    have hnew : rename key ∉ out.map Prod.fst := fun hmem =>
      (List.nodup_append.mp hnodup).2.2 _ hmem _ List.mem_cons_self rfl
    have hrest := renameFields_eq fields
      (out ++ [(rename key, if isVerbatim key then val else renameKeys rename val)])
      (by simpa using hnodup) fun field hfield => hproto field (List.mem_cons_of_mem _ hfield)
    rw [renameFields, assign_new (hproto _ List.mem_cons_self) hnew, hrest, List.append_assoc]
    rfl

end Fields

/-! ## Renamings -/

/-- A renaming of the keys that satisfy `P`, with the one that takes it back. -/
structure Renaming (P : String → Bool) where
  there : String → String
  back : String → String
  inverse : ∀ key, P key = true → back (there key) = key
  proto : ∀ key, P key = true → there key ≠ "__proto__" ∧ key ≠ "__proto__"
  verbatim : ∀ key, P key = true → isVerbatim (there key) = isVerbatim key

namespace Renaming

variable (R : Renaming P)

lemma there_inj {key key' : String} (h : P key = true) (h' : P key' = true)
    (heq : R.there key = R.there key') : key = key' := by
  rw [← R.inverse key h, ← R.inverse key' h', heq]

/-- No two keys of an object become one. -/
lemma nodup_there {fields : List (String × Json)} (hnodup : (fields.map Prod.fst).Nodup)
    (hP : ∀ field ∈ fields, P field.1 = true) :
    (fields.map fun field => R.there field.1).Nodup := by
  have hmap : fields.map (fun field => R.there field.1) = (fields.map Prod.fst).map R.there := by
    rw [List.map_map]
    rfl
  rw [hmap]
  refine List.Nodup.map_on (fun key hkey key' hkey' heq => ?_) hnodup
  obtain ⟨field, hfield, rfl⟩ := List.mem_map.mp hkey
  obtain ⟨field', hfield', rfl⟩ := List.mem_map.mp hkey'
  exact R.there_inj (hP field hfield) (hP field' hfield') heq

variable {fields : List (String × Json)}

/-- An object with its keys renamed. -/
lemma renameKeys_obj (hnodup : (fields.map Prod.fst).Nodup)
    (hP : ∀ field ∈ fields, P field.1 = true) :
    renameKeys R.there (.obj fields) = .obj (fields.map (renamed R.there)) := by
  rw [renameKeys, renameFields_eq fields [] (by simpa using R.nodup_there hnodup hP)
    fun field hfield => (R.proto _ (hP field hfield)).1, List.nil_append]

/-- Its keys renamed back. -/
lemma renameKeys_back_obj (hnodup : (fields.map Prod.fst).Nodup)
    (hP : ∀ field ∈ fields, P field.1 = true) :
    renameKeys R.back (.obj (fields.map (renamed R.there))) =
      .obj (fields.map fun field => renamed R.back (renamed R.there field)) := by
  have hkeys : (fields.map (renamed R.there)).map (fun field => R.back field.1) =
      fields.map Prod.fst := by
    rw [List.map_map]
    exact List.map_congr_left fun field hfield => R.inverse _ (hP field hfield)
  rw [renameKeys, renameFields_eq _ [] ?_ ?_, List.nil_append, List.map_map]
  · rfl
  · rw [List.map_nil, List.nil_append, hkeys]
    exact hnodup
  · intro field' hfield'
    obtain ⟨field, hfield, rfl⟩ := List.mem_map.mp hfield'
    show R.back (R.there field.1) ≠ _
    rw [R.inverse _ (hP field hfield)]
    exact (R.proto _ (hP field hfield)).2

/-- **Renaming there and back.** -/
theorem renameKeys_inverse (v : Json) : distinctKeys v = true → keysSatisfy P v = true →
    renameKeys R.back (renameKeys R.there v) = v := by
  induction v using Json.induction with
  | null | bool | num | str => exact fun _ _ => rfl
  | arr items ih =>
    intro hdistinct hkeys
    simp only [renameKeys, renameItems_eq, List.map_map]
    congr 1
    refine (List.map_congr_left fun item hitem => ?_).trans (List.map_id _)
    exact ih item hitem (distinctItems_iff.mp hdistinct item hitem)
      (itemsSatisfy_iff.mp hkeys item hitem)
  | obj fields ih =>
    intro hdistinct hkeys
    obtain ⟨hnodup, hfields⟩ := distinctKeys_obj.mp hdistinct
    have hP := fieldsSatisfy_iff.mp hkeys
    rw [R.renameKeys_obj hnodup fun field hfield => (hP field hfield).1,
      R.renameKeys_back_obj hnodup fun field hfield => (hP field hfield).1]
    congr 1
    refine (List.map_congr_left fun field hfield => ?_).trans (List.map_id _)
    obtain ⟨hkey, hval⟩ := hP field hfield
    refine Prod.ext (R.inverse _ hkey) ?_
    show (if isVerbatim (R.there field.1) then _ else _) = field.2
    rw [R.verbatim _ hkey]
    cases hverbatim : isVerbatim field.1 with
    | true => simp [renamed, hverbatim]
    | false =>
      simp only [renamed, hverbatim, Bool.false_eq_true, if_false]
      exact ih field hfield (hfields field hfield) (hval hverbatim)

lemma mem_of_lookup {key : String} {val : Json} (h : fields.lookup key = some val) :
    (key, val) ∈ fields := by
  obtain ⟨before, after, rfl, -⟩ := List.lookup_eq_some_iff.mp h
  simp

/-- Looking a renamed key up. -/
lemma lookup_renamed {key : String} {val : Json} (hP : ∀ field ∈ fields, P field.1 = true)
    (hkey : fields.lookup key = some val) : (fields.map (renamed R.there)).lookup (R.there key) =
      some (if isVerbatim key then val else renameKeys R.there val) := by
  induction fields with
  | nil => simp at hkey
  | cons field fields ih =>
    have hrest : ∀ field' ∈ fields, P field'.1 = true := fun field' hfield' =>
      hP field' (List.mem_cons_of_mem _ hfield')
    rw [List.map_cons, List.lookup_cons]
    rw [List.lookup_cons] at hkey
    by_cases hsame : key = field.1
    · subst hsame
      simp only [beq_self_eq_true, Option.some.injEq] at hkey
      simp [renamed, hkey]
    · rw [beq_eq_false_iff_ne.mpr hsame] at hkey
      have hknown : P key = true := hrest _ (mem_of_lookup hkey)
      have hne : R.there key ≠ R.there field.1 := fun heq =>
        hsame (R.there_inj hknown (hP field List.mem_cons_self) heq)
      rw [show (renamed R.there field).1 = R.there field.1 from rfl,
        beq_eq_false_iff_ne.mpr hne]
      exact ih hrest hkey

/-- **What stands at a path outside verbatim fields, with its keys renamed.** -/
theorem valueAt_renameKeys : ∀ (path : List Step) (v w : Json), distinctKeys v = true →
    keysSatisfy P v = true → path.all Step.outside = true → valueAt v path = some w →
    valueAt (renameKeys R.there v) (path.map (Step.rename R.there)) =
      some (renameKeys R.there w) ∧ distinctKeys w = true ∧ keysSatisfy P w = true := by
  intro path
  induction path with
  | nil =>
    intro v w hdistinct hkeys _ hw
    simp only [valueAt, Option.some.injEq] at hw
    subst hw
    exact ⟨rfl, hdistinct, hkeys⟩
  | cons step path ih =>
    intro v w hdistinct hkeys houtside hw
    rw [List.all_cons, Bool.and_eq_true] at houtside
    cases v with
    | null | bool | num | str => simp [valueAt] at hw
    | arr items =>
      cases step with
      | field key => simp [valueAt] at hw
      | index i =>
        obtain ⟨item, hitem, hrest⟩ := Option.bind_eq_some_iff.mp hw
        have hmem := List.mem_of_getElem? hitem
        obtain ⟨hat, hfound⟩ := ih item w (distinctItems_iff.mp hdistinct item hmem)
          (itemsSatisfy_iff.mp hkeys item hmem) houtside.2 hrest
        refine ⟨?_, hfound⟩
        simpa [renameKeys, renameItems_eq, valueAt, Step.rename, hitem] using hat
    | obj fields =>
      cases step with
      | index i => simp [valueAt] at hw
      | field key =>
        obtain ⟨val, hval, hrest⟩ := Option.bind_eq_some_iff.mp hw
        obtain ⟨hnodup, hfields⟩ := distinctKeys_obj.mp hdistinct
        have hP := fieldsSatisfy_iff.mp hkeys
        have hmem : (key, val) ∈ fields := mem_of_lookup hval
        have hverbatim : isVerbatim key = false := by simpa [Step.outside] using houtside.1
        obtain ⟨hat, hfound⟩ := ih val w (hfields _ hmem) ((hP _ hmem).2 hverbatim) houtside.2 hrest
        refine ⟨?_, hfound⟩
        rw [R.renameKeys_obj hnodup fun field hfield => (hP field hfield).1, List.map_cons]
        simp only [Step.rename, valueAt,
          R.lookup_renamed (fun field hfield => (hP field hfield).1) hval, hverbatim,
          Bool.false_eq_true, if_false, Option.bind_some]
        exact hat

/-- **Renaming the keys of a value is undone**, loses no key and leaves the verbatim fields. -/
theorem roundTrip {v : Json} (hdistinct : distinctKeys v = true) (hkeys : keysSatisfy P v = true) :
    RoundTrip (renameKeys R.there) (renameKeys R.back) R.there v where
  inverse := R.renameKeys_inverse v hdistinct hkeys
  distinct path fields houtside hat := by
    obtain ⟨hthere, hfields, hsatisfy⟩ :=
      R.valueAt_renameKeys path v _ hdistinct hkeys houtside hat
    have hnodup := (distinctKeys_obj.mp hfields).1
    have hP : ∀ field ∈ fields, P field.1 = true := fun field hfield =>
      (fieldsSatisfy_iff.mp hsatisfy field hfield).1
    rw [R.renameKeys_obj hnodup hP] at hthere
    have hnames : (fields.map (renamed R.there)).map Prod.fst =
        fields.map fun field => R.there field.1 := by
      rw [List.map_map]
      rfl
    exact ⟨_, hthere, hnames, hnames ▸ R.nodup_there hnodup hP⟩
  verbatim path key x houtside hverbatim hat := by
    rw [R.renameKeys_inverse v hdistinct hkeys]
    refine ⟨?_, hat⟩
    rw [valueAt_append] at hat ⊢
    obtain ⟨w, hw, hx⟩ := Option.bind_eq_some_iff.mp hat
    obtain ⟨hthere, hfields, hsatisfy⟩ := R.valueAt_renameKeys path v w hdistinct hkeys houtside hw
    rw [hthere, Option.bind_some]
    cases w with
    | null | bool | num | str | arr => simp [valueAt] at hx
    | obj fields =>
      have hP : ∀ field ∈ fields, P field.1 = true := fun field hfield =>
        (fieldsSatisfy_iff.mp hsatisfy field hfield).1
      have hval : fields.lookup key = some x := by simpa [valueAt] using hx
      rw [R.renameKeys_obj (distinctKeys_obj.mp hfields).1 hP]
      simp [valueAt, R.lookup_renamed hP hval, hverbatim]

end Renaming

/-! ## The two casings -/

/-- Does the key hold no upper-case letter, and is it none that objects treat specially? -/
def isSnakeKey (key : String) : Bool :=
  !key.toList.any upperLetters.contains && key != "__proto__"

/-- Does the key hold no underscore? -/
def isCamelKey (key : String) : Bool := !key.toList.contains '_'

lemma toUpper_lower : ∀ c ∈ lowerLetters, c.toUpper ∈ upperLetters ∧ c.toUpper.toLower = c := by
  have hall : lowerLetters.all
      (fun c => upperLetters.contains c.toUpper && c.toUpper.toLower == c) = true := by
    rw [lowerLetters_eq, upperLetters_eq]
    decide
  simpa [List.all_eq_true] using hall

lemma toLower_upper : ∀ c ∈ upperLetters, c.toLower ∈ lowerLetters ∧ c.toLower.toUpper = c := by
  have hall : upperLetters.all
      (fun c => lowerLetters.contains c.toLower && c.toLower.toUpper == c) = true := by
    rw [lowerLetters_eq, upperLetters_eq]
    decide
  simpa [List.all_eq_true] using hall

lemma snakeChars_camelChars (cs : List Char) (h : ∀ c ∈ cs, c ∉ upperLetters) :
    snakeChars (camelChars cs) = cs := by
  induction cs using camelChars.induct with
  | case1 c rest hlower ih =>
    have hrest := ih fun d hd => h d (List.mem_cons_of_mem _ (List.mem_cons_of_mem _ hd))
    obtain ⟨hupper, hback⟩ := toUpper_lower c hlower
    rw [camelChars, if_pos hlower, snakeChars, if_pos hupper, hback, hrest]
  | case2 c rest hlower ih =>
    have hrest := ih fun d hd => h d (List.mem_cons_of_mem _ hd)
    rw [camelChars, if_neg hlower, snakeChars, if_neg (h '_' List.mem_cons_self), hrest]
  | case3 c rest hnot ih =>
    have hrest := ih fun d hd => h d (List.mem_cons_of_mem _ hd)
    rw [camelChars, snakeChars, if_neg (h c List.mem_cons_self), hrest]
    exact hnot
  | case4 => rfl

lemma camelChars_snakeChars (cs : List Char) (h : '_' ∉ cs) : camelChars (snakeChars cs) = cs := by
  induction cs with
  | nil => rfl
  | cons c rest ih =>
    obtain ⟨hc, hrest⟩ := not_or.mp (mt List.mem_cons.mpr h)
    by_cases hupper : c ∈ upperLetters
    · obtain ⟨hlower, hback⟩ := toLower_upper c hupper
      rw [snakeChars, if_pos hupper, camelChars, if_pos hlower, hback, ih hrest]
    · rw [snakeChars, if_neg hupper, camelChars, ih hrest]
      intro d ds heq
      exact absurd heq.symm hc

/-- Both spellings of a verbatim field are verbatim fields. -/
lemma verbatim_spellings : ∀ key ∈ VERBATIM_VALUE_KEYS,
    toCamelKey key ∈ VERBATIM_VALUE_KEYS ∧ toSnakeKey key ∈ VERBATIM_VALUE_KEYS := by
  decide +kernel

/-- A renaming that keeps the verbatim fields, as its inverse does, makes no others. -/
lemma isVerbatim_of_inverse {there back : String → String} {key : String}
    (hthere : ∀ key ∈ VERBATIM_VALUE_KEYS, there key ∈ VERBATIM_VALUE_KEYS)
    (hback : ∀ key ∈ VERBATIM_VALUE_KEYS, back key ∈ VERBATIM_VALUE_KEYS)
    (hinverse : back (there key) = key) : isVerbatim (there key) = isVerbatim key := by
  unfold isVerbatim
  rw [Bool.eq_iff_iff, List.contains_iff_mem, List.contains_iff_mem]
  exact ⟨fun h => hinverse ▸ hback _ h, hthere key⟩

lemma toSnakeKey_toCamelKey {key : String} (h : isSnakeKey key = true) :
    toSnakeKey (toCamelKey key) = key := by
  have hlower : ∀ c ∈ key.toList, c ∉ upperLetters := by
    simp only [isSnakeKey, Bool.and_eq_true, Bool.not_eq_true', List.any_eq_false] at h
    exact fun c hc hupper => h.1 c hc (List.contains_iff_mem.mpr hupper)
  rw [toSnakeKey, toCamelKey, String.toList_ofList, snakeChars_camelChars _ hlower,
    String.ofList_toList]

lemma toCamelKey_toSnakeKey {key : String} (h : isCamelKey key = true) :
    toCamelKey (toSnakeKey key) = key := by
  have hplain : '_' ∉ key.toList := by simpa [isCamelKey] using h
  rw [toSnakeKey, toCamelKey, String.toList_ofList, camelChars_snakeChars _ hplain,
    String.ofList_toList]

/-- Snake case to camel case. -/
def toCamel : Renaming isSnakeKey where
  there := toCamelKey
  back := toSnakeKey
  inverse _ := toSnakeKey_toCamelKey
  proto key hkey := by
    have hne : key ≠ "__proto__" := by
      simp only [isSnakeKey, Bool.and_eq_true, bne_iff_ne, ne_eq] at hkey
      exact hkey.2
    refine ⟨fun heq => hne ?_, hne⟩
    rw [← toSnakeKey_toCamelKey hkey, heq]
    decide
  verbatim key hkey := isVerbatim_of_inverse (fun key h => (verbatim_spellings key h).1)
    (fun key h => (verbatim_spellings key h).2) (toSnakeKey_toCamelKey hkey)

/-- Camel case to snake case. -/
def toSnake : Renaming isCamelKey where
  there := toSnakeKey
  back := toCamelKey
  inverse _ := toCamelKey_toSnakeKey
  proto key hkey := by
    refine ⟨fun heq => ?_, fun heq => ?_⟩
    · rw [← toCamelKey_toSnakeKey hkey, heq] at hkey
      exact absurd hkey (by decide)
    · rw [heq] at hkey
      exact absurd hkey (by decide)
  verbatim key hkey := isVerbatim_of_inverse (fun key h => (verbatim_spellings key h).2)
    (fun key h => (verbatim_spellings key h).1) (toCamelKey_toSnakeKey hkey)

/-- **The casing of keys is undone**, both ways. -/
theorem casing_roundTrip (v : JsonValue) :
    (keysSatisfy isSnakeKey v.val = true →
      RoundTrip camelizeKeys decamelizeKeys toCamelKey v.val) ∧
    (keysSatisfy isCamelKey v.val = true →
      RoundTrip decamelizeKeys camelizeKeys toSnakeKey v.val) :=
  ⟨toCamel.roundTrip v.property, toSnake.roundTrip v.property⟩

/-- A message with a document of the user. -/
def wireMessage : JsonValue :=
  ⟨.obj [("agent_id", .str "a"), ("data", .obj [("batchSize", .null), ("batch_size", .null)])],
    by decide⟩

/-- The same message as the client has it. -/
def clientMessage : JsonValue :=
  ⟨.obj [("agentId", .str "a"), ("data", .obj [("batchSize", .null), ("batch_size", .null)])],
    by decide⟩

/-- A message on the wire and one of the client, there and back. -/
theorem casing_roundTrip_messages :
    RoundTrip camelizeKeys decamelizeKeys toCamelKey wireMessage.val ∧
      RoundTrip decamelizeKeys camelizeKeys toSnakeKey clientMessage.val :=
  ⟨(casing_roundTrip wireMessage).1 (by decide +kernel),
    (casing_roundTrip clientMessage).2 (by decide +kernel)⟩

end Sdk.Casing
