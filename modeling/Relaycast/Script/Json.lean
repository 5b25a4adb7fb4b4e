import Mathlib.Data.List.Sort
import Mathlib.Data.List.Lex

/-!
# JSON texts

Values as `JSON.parse` returns them, their text, and the text with the keys of every object in
order, which programs compare and hash in place of the values.  Two values have the same canonical
text exactly if they are the same once the fields of their objects are put in order
(`canonicalJson_eq_iff`): writing a text loses nothing (`render_injective`), and sorting loses only
the order of the fields (`Same.of_perm`).

A number is the text the engine prints for it; no two numbers have one text.  Texts are lists of
characters.
-/

namespace Script

/-- The characters of a number. -/
def numberChars : List Char := "0123456789+-.e".toList

/-- The characters of a number, for evaluation. -/
lemma numberChars_eq : numberChars =
    ['0', '1', '2', '3', '4', '5', '6', '7', '8', '9', '+', '-', '.', 'e'] :=
  String.toList_ofList

/-- The text of a number. -/
structure NumberText where
  chars : List Char
  nonempty : chars ≠ []
  numeric : ∀ c ∈ chars, c ∈ numberChars

inductive Json
  | null
  | bool (b : Bool)
  | num (n : NumberText)
  | str (s : String)
  | arr (items : List Json)
  | obj (fields : List (String × Json))

/-- A property of all values, from that of their items and of the values of their fields. -/
@[elab_as_elim]
theorem Json.induction {motive : Json → Prop} (null : motive .null) (bool : ∀ b, motive (.bool b))
    (num : ∀ n, motive (.num n)) (str : ∀ s, motive (.str s))
    (arr : ∀ items, (∀ v ∈ items, motive v) → motive (.arr items))
    (obj : ∀ fields, (∀ field ∈ fields, motive field.2) → motive (.obj fields)) (v : Json) :
    motive v := by
  refine @Json.rec motive (fun items => ∀ v ∈ items, motive v)
    (fun fields => ∀ field ∈ fields, motive field.2) (fun field => motive field.2) null bool num
    str arr obj ?_ ?_ ?_ ?_ ?_ v
  · simp
  · intro v vs hv hvs
    exact List.forall_mem_cons.mpr ⟨hv, hvs⟩
  · simp
  · intro field fields hfield hfields
    exact List.forall_mem_cons.mpr ⟨hfield, hfields⟩
  · intro key val hval
    exact hval

/-! ## Texts -/

/-- A hexadecimal digit. -/
def hexDigit (n : ℕ) : Char := ("0123456789abcdef".toList)[n]?.getD '0'

/-- How a character is written inside a string literal. -/
def escape (c : Char) : List Char :=
  if c = '"' then ['\\', '"']
  else if c = '\\' then ['\\', '\\']
  else if c = '\u0008' then ['\\', 'b']
  else if c = '\u000c' then ['\\', 'f']
  else if c = '\n' then ['\\', 'n']
  else if c = '\r' then ['\\', 'r']
  else if c = '\t' then ['\\', 't']
  else if c.toNat < 32 then ['\\', 'u', '0', '0', hexDigit (c.toNat / 16), hexDigit (c.toNat % 16)]
  else [c]

/-- `JSON.stringify` of a string. -/
def quote (s : String) : List Char := '"' :: s.toList.flatMap escape ++ ['"']

/-- `texts.join(',')`. -/
def commaJoin : List (List Char) → List Char
  | [] => []
  | [t] => t
  | t :: t' :: ts => t ++ ',' :: commaJoin (t' :: ts)

/-- A field of an object. -/
def fieldText (key : String) (text : List Char) : List Char := quote key ++ ':' :: text

mutual

/-- `JSON.stringify`, which keeps the fields in their order. -/
def render : Json → List Char
  | .null => "null".toList
  | .bool true => "true".toList
  | .bool false => "false".toList
  | .num n => n.chars
  | .str s => quote s
  | .arr items => '[' :: commaJoin (renderItems items) ++ [']']
  | .obj fields => '{' :: commaJoin (renderFields fields) ++ ['}']

def renderItems : List Json → List (List Char)
  | [] => []
  | v :: vs => render v :: renderItems vs

def renderFields : List (String × Json) → List (List Char)
  | [] => []
  | (k, v) :: fs => fieldText k (render v) :: renderFields fs

end

/-! ## The order of keys -/

/-- The code units of a character. -/
def codeUnits (c : Char) : List ℕ :=
  if c.toNat < 0x10000 then [c.toNat]
  else [0xD800 + (c.toNat - 0x10000) / 0x400, 0xDC00 + (c.toNat - 0x10000) % 0x400]

/-- The code units of a string, which `sort` compares. -/
def utf16 (s : String) : List ℕ := s.toList.flatMap codeUnits

/-- The order of `Object.keys(record).sort()`. -/
def keyLe {α : Type} (f f' : String × α) : Prop := utf16 f.1 ≤ utf16 f'.1

instance {α : Type} : DecidableRel (keyLe : String × α → String × α → Prop) :=
  fun f f' => inferInstanceAs (Decidable (utf16 f.1 ≤ utf16 f'.1))

mutual

/-- `canonicalJson`: the text with the fields of every object in the order of their keys. -/
def canonicalJson : Json → List Char
  | .null => "null".toList
  | .bool true => "true".toList
  | .bool false => "false".toList
  | .num n => n.chars
  | .str s => quote s
  | .arr items => '[' :: commaJoin (canonicalItems items) ++ [']']
  | .obj fields =>
    '{' :: commaJoin (((canonicalFields fields).insertionSort keyLe).map fun f =>
      fieldText f.1 f.2) ++ ['}']

def canonicalItems : List Json → List (List Char)
  | [] => []
  | v :: vs => canonicalJson v :: canonicalItems vs

def canonicalFields : List (String × Json) → List (String × List Char)
  | [] => []
  | (k, v) :: fs => (k, canonicalJson v) :: canonicalFields fs

end

mutual

/-- The value with the fields of every object in order. -/
def sortKeys : Json → Json
  | .arr items => .arr (sortItems items)
  | .obj fields => .obj ((sortFields fields).insertionSort keyLe)
  | v => v

def sortItems : List Json → List Json
  | [] => []
  | v :: vs => sortKeys v :: sortItems vs

def sortFields : List (String × Json) → List (String × Json)
  | [] => []
  | (k, v) :: fs => (k, sortKeys v) :: sortFields fs

end

/-! ## A text determines its value -/

/-- What stands at the front of an escaped text: its first character, and the rest. -/
def unescape : List Char → Option (Char × List Char)
  | '\\' :: 'u' :: '0' :: '0' :: x :: y :: rest =>
    some (Char.ofNat (16 * "0123456789abcdef".toList.idxOf x +
      "0123456789abcdef".toList.idxOf y), rest)
  | '\\' :: 'b' :: rest => some ('\u0008', rest)
  | '\\' :: 'f' :: rest => some ('\u000c', rest)
  | '\\' :: 'n' :: rest => some ('\n', rest)
  | '\\' :: 'r' :: rest => some ('\r', rest)
  | '\\' :: 't' :: rest => some ('\t', rest)
  | '\\' :: c :: rest => some (c, rest)
  | c :: rest => some (c, rest)
  | [] => none

lemma idxOf_hexDigit : ∀ n < 16, "0123456789abcdef".toList.idxOf (hexDigit n) = n := by
  decide

/-- Reading a character back. -/
lemma unescape_escape (c : Char) (rest : List Char) :
    unescape (escape c ++ rest) = some (c, rest) := by
  unfold escape
  repeat' split
  iterate 7
    · subst_vars
      rfl
  · have hhigh := idxOf_hexDigit (c.toNat / 16) (by omega)
    have hlow := idxOf_hexDigit (c.toNat % 16) (by omega)
    simp only [List.cons_append, List.nil_append, unescape, hhigh, hlow]
    rw [Nat.div_add_mod, Char.ofNat_toNat]
  · simp only [List.cons_append, List.nil_append]
    unfold unescape
    split <;> simp_all

lemma escape_head (c : Char) : ∃ d rest, escape c = d :: rest ∧ d ≠ '"' := by
  unfold escape
  split
  · exact ⟨_, _, rfl, by decide⟩
  · next hquote =>
    repeat' split
    all_goals exact ⟨_, _, rfl, by first | exact hquote | decide⟩

/-- What stands before a closing quote comes apart again, if every piece of it can be read back and
none starts with a quote. -/
lemma flatMap_cancel {α : Type} {write : α → List Char}
    {read : List Char → Option (α × List Char)}
    (hread : ∀ a rest, read (write a ++ rest) = some (a, rest))
    (hhead : ∀ a, ∃ d tail, write a = d :: tail ∧ d ≠ '"') {rest rest' : List Char} :
    ∀ xs ys : List α, xs.flatMap write ++ '"' :: rest = ys.flatMap write ++ '"' :: rest' →
      xs = ys ∧ rest = rest' := by
  intro xs
  induction xs with
  | nil =>
    intro ys h
    cases ys with
    | nil => simpa using h
    | cons y ys =>
      obtain ⟨d, tail, hd, hne⟩ := hhead y
      simp only [List.flatMap_nil, List.nil_append, List.flatMap_cons, hd, List.cons_append,
        List.cons.injEq] at h
      exact absurd h.1.symm hne
  | cons x xs ih =>
    intro ys h
    cases ys with
    | nil =>
      obtain ⟨d, tail, hd, hne⟩ := hhead x
      simp only [List.flatMap_nil, List.nil_append, List.flatMap_cons, hd, List.cons_append,
        List.cons.injEq] at h
      exact absurd h.1 hne
    | cons y ys =>
      simp only [List.flatMap_cons, List.append_assoc] at h
      have hfirst := congrArg read h
      rw [hread, hread, Option.some.injEq, Prod.mk.injEq] at hfirst
      obtain ⟨rfl, hrest⟩ := hfirst
      obtain ⟨rfl, hdone⟩ := ih ys hrest
      exact ⟨rfl, hdone⟩

/-- A string literal ends at its closing quote. -/
lemma quote_cancel {s s' : String} {rest rest' : List Char}
    (h : quote s ++ rest = quote s' ++ rest') : s = s' ∧ rest = rest' := by
  simp only [quote, List.cons_append, List.append_assoc, List.nil_append, List.cons.injEq,
    true_and] at h
  obtain ⟨hs, hrest⟩ := flatMap_cancel unescape_escape escape_head _ _ h
  exact ⟨String.toList_inj.mp hs, hrest⟩

/-- A number cannot go on here. -/
def Stops (rest : List Char) : Prop := ∀ c tail, rest = c :: tail → c ∉ numberChars

lemma stops_nil : Stops [] := by
  intro c tail h
  cases h

lemma stops_cons {c : Char} {tail : List Char} (h : c ∉ numberChars) : Stops (c :: tail) := by
  intro c' tail' h'
  obtain ⟨rfl, -⟩ := List.cons.inj h'
  exact h

/-- A number ends where no character of a number follows. -/
lemma NumberText.cancel {n n' : NumberText} {rest rest' : List Char} (hrest : Stops rest)
    (hrest' : Stops rest') (h : n.chars ++ rest = n'.chars ++ rest') :
    n = n' ∧ rest = rest' := by
  have key : ∀ (cs cs' : List Char), (∀ c ∈ cs, c ∈ numberChars) → (∀ c ∈ cs', c ∈ numberChars) →
      cs ++ rest = cs' ++ rest' → cs = cs' ∧ rest = rest' := by
    intro cs
    induction cs with
    | nil =>
      intro cs' _ hcs' h
      cases cs' with
      | nil => exact ⟨rfl, h⟩
      | cons c' cs' => exact absurd (hcs' c' List.mem_cons_self) (hrest c' _ h)
    | cons c cs ih =>
      intro cs' hcs hcs' h
      cases cs' with
      | nil => exact absurd (hcs c List.mem_cons_self) (hrest' c _ h.symm)
      | cons c' cs' =>
        obtain ⟨rfl, htail⟩ := List.cons.inj h
        obtain ⟨rfl, hrest⟩ := ih cs' (fun c hc => hcs c (List.mem_cons_of_mem _ hc))
          (fun c hc => hcs' c (List.mem_cons_of_mem _ hc)) htail
        exact ⟨rfl, hrest⟩
  obtain ⟨hchars, hrest⟩ := key _ _ n.numeric n'.numeric h
  cases n
  cases n'
  simp only at hchars
  subst hchars
  exact ⟨rfl, hrest⟩

/-- The kind of a value, as its constructors have it. -/
def Json.kind : Json → ℕ
  | .null => 0
  | .bool true => 1
  | .bool false => 2
  | .num _ => 3
  | .str _ => 4
  | .arr _ => 5
  | .obj _ => 6

/-- The kind of a value, as the first character of its text has it. -/
def kindOf (c : Char) : ℕ :=
  if c = 'n' then 0 else if c = 't' then 1 else if c = 'f' then 2 else if c = '"' then 4
  else if c = '[' then 5 else if c = '{' then 6 else if c ∈ numberChars then 3 else 7

lemma kindOf_numeric : ∀ c ∈ numberChars, kindOf c = 3 := by
  have hall : numberChars.all (fun c => kindOf c == 3) = true := by
    simp only [kindOf, numberChars_eq]
    decide
  intro c hc
  exact eq_of_beq (List.all_eq_true.mp hall c hc)

lemma render_null : render .null = ['n', 'u', 'l', 'l'] := by
  rw [render]
  exact String.toList_ofList

lemma render_true : render (.bool true) = ['t', 'r', 'u', 'e'] := by
  rw [render]
  exact String.toList_ofList

lemma render_false : render (.bool false) = ['f', 'a', 'l', 's', 'e'] := by
  rw [render]
  exact String.toList_ofList

/-- The first character of a text tells the kind of the value. -/
lemma render_head (v : Json) : ∃ c tail, render v = c :: tail ∧ kindOf c = v.kind := by
  match v with
  | .null => exact ⟨'n', _, render_null, by decide⟩
  | .bool true => exact ⟨'t', _, render_true, by decide⟩
  | .bool false => exact ⟨'f', _, render_false, by decide⟩
  | .num n =>
    obtain ⟨c, tail, hc⟩ := List.exists_cons_of_ne_nil n.nonempty
    exact ⟨c, tail, hc, kindOf_numeric c (n.numeric c (by simp [hc]))⟩
  | .str s => exact ⟨'"', _, rfl, rfl⟩
  | .arr items => exact ⟨'[', _, rfl, rfl⟩
  | .obj fields => exact ⟨'{', _, rfl, rfl⟩

lemma kind_eq_of_render {v v' : Json} {rest rest' : List Char}
    (h : render v ++ rest = render v' ++ rest') : v.kind = v'.kind := by
  obtain ⟨c, tail, hc, hkind⟩ := render_head v
  obtain ⟨c', tail', hc', hkind'⟩ := render_head v'
  rw [hc, hc', List.cons_append, List.cons_append] at h
  rw [← hkind, ← hkind', (List.cons.inj h).1]

section Comma

variable {α : Type} {text : α → List Char} {close : Char}

/-- Nothing that is joined reads as the closing bracket. -/
lemma close_ne_commaJoin (hhead : ∀ x, ∃ c tail, text x = c :: tail ∧ c ≠ close) (y : α)
    (ys : List α) (rest rest' : List Char) :
    close :: rest ≠ commaJoin ((y :: ys).map text) ++ close :: rest' := by
  intro h
  obtain ⟨c, tail, hc, hne⟩ := hhead y
  cases ys <;> simp only [List.map_cons, List.map_nil, commaJoin, hc, List.cons_append] at h <;>
    exact hne (List.cons.inj h).1.symm

/-- Texts joined by commas come apart again, if each of them can be told from what follows it and
none of them starts with the closing bracket.  What two of the same text have in common, the two
lists have one by one. -/
lemma forall₂_of_commaJoin {R : α → α → Prop} (hclose : close ∉ numberChars) (hcomma : close ≠ ',')
    (hhead : ∀ x, ∃ c tail, text x = c :: tail ∧ c ≠ close) :
    ∀ (xs ys : List α), (∀ x ∈ xs, ∀ y rest rest', Stops rest → Stops rest' →
      text x ++ rest = text y ++ rest' → R x y ∧ rest = rest') → ∀ rest rest',
      commaJoin (xs.map text) ++ close :: rest = commaJoin (ys.map text) ++ close :: rest' →
        List.Forall₂ R xs ys ∧ rest = rest' := by
  have hstops : ∀ rest, Stops (close :: rest) := fun rest => stops_cons hclose
  have hstopsComma : ∀ rest, Stops (',' :: rest) := fun rest => stops_cons (by decide)
  intro xs
  induction xs with
  | nil =>
    intro ys _ rest rest' h
    cases ys with
    | nil => exact ⟨.nil, by simpa [commaJoin] using h⟩
    | cons y ys => exact absurd h (close_ne_commaJoin hhead y ys rest rest')
  | cons x xs ih =>
    intro ys hxs rest rest' h
    have hx := hxs x List.mem_cons_self
    cases ys with
    | nil => exact absurd h.symm (close_ne_commaJoin hhead x xs rest' rest)
    | cons y ys =>
      cases xs with
      | nil =>
        cases ys with
        | nil =>
          obtain ⟨hxy, hrest⟩ := hx y _ _ (hstops rest) (hstops rest') h
          exact ⟨.cons hxy .nil, (List.cons.inj hrest).2⟩
        | cons y' ys =>
          simp only [List.map_cons, List.map_nil, commaJoin, List.append_assoc,
            List.cons_append] at h
          obtain ⟨-, hrest⟩ := hx y _ _ (hstops _) (hstopsComma _) h
          exact absurd (List.cons.inj hrest).1 hcomma
      | cons x' xs =>
        cases ys with
        | nil =>
          simp only [List.map_cons, List.map_nil, commaJoin, List.append_assoc,
            List.cons_append] at h
          obtain ⟨-, hrest⟩ := hx y _ _ (hstopsComma _) (hstops _) h
          exact absurd (List.cons.inj hrest).1.symm hcomma
        | cons y' ys =>
          simp only [List.map_cons, commaJoin, List.append_assoc, List.cons_append] at h
          obtain ⟨hxy, hrest⟩ := hx y _ _ (hstopsComma _) (hstopsComma _) h
          obtain ⟨htail, hrest⟩ := ih (y' :: ys) (fun x hx => hxs x (List.mem_cons_of_mem _ hx))
            rest rest' (by simpa only [List.map_cons] using (List.cons.inj hrest).2)
          exact ⟨.cons hxy htail, hrest⟩

/-- Texts that tell what they are the texts of still do when they are joined by commas. -/
lemma commaJoin_cancel (hclose : close ∉ numberChars) (hcomma : close ≠ ',')
    (hhead : ∀ x, ∃ c tail, text x = c :: tail ∧ c ≠ close) (xs ys : List α)
    (hxs : ∀ x ∈ xs, ∀ y rest rest', Stops rest → Stops rest' →
      text x ++ rest = text y ++ rest' → x = y ∧ rest = rest') (rest rest' : List Char)
    (h : commaJoin (xs.map text) ++ close :: rest = commaJoin (ys.map text) ++ close :: rest') :
    xs = ys ∧ rest = rest' := by
  obtain ⟨hsame, hrest⟩ := forall₂_of_commaJoin hclose hcomma hhead xs ys hxs rest rest' h
  exact ⟨List.forall₂_eq_eq_eq ▸ hsame, hrest⟩

end Comma

lemma renderItems_eq (items : List Json) : renderItems items = items.map render := by
  induction items with
  | nil => rfl
  | cons v vs ih => rw [renderItems, ih, List.map_cons]

lemma renderFields_eq (fields : List (String × Json)) :
    renderFields fields = fields.map fun f => fieldText f.1 (render f.2) := by
  induction fields with
  | nil => rfl
  | cons f fs ih => rw [renderFields, ih, List.map_cons]

/-- No text starts with a closing bracket. -/
lemma render_head_ne {close : Char} (hclose : kindOf close = 7) (v : Json) :
    ∃ c tail, render v = c :: tail ∧ c ≠ close := by
  obtain ⟨c, tail, hc, hkind⟩ := render_head v
  refine ⟨c, tail, hc, ?_⟩
  rintro rfl
  have : v.kind < 7 := by
    match v with
    | .null | .bool true | .bool false | .num _ | .str _ | .arr _ | .obj _ => simp [Json.kind]
  omega

mutual

/-- A text can be told from what follows it. -/
theorem render_cancel : ∀ (v v' : Json) (rest rest' : List Char), Stops rest → Stops rest' →
    render v ++ rest = render v' ++ rest' → v = v' ∧ rest = rest'
  | .null, v', rest, rest', _, _, h => by
    have hkind := kind_eq_of_render h
    match v', hkind with
    | .null, _ => exact ⟨rfl, List.append_cancel_left h⟩
  | .bool true, v', rest, rest', _, _, h => by
    have hkind := kind_eq_of_render h
    match v', hkind with
    | .bool true, _ => exact ⟨rfl, List.append_cancel_left h⟩
  | .bool false, v', rest, rest', _, _, h => by
    have hkind := kind_eq_of_render h
    match v', hkind with
    | .bool false, _ => exact ⟨rfl, List.append_cancel_left h⟩
  | .num n, v', rest, rest', hrest, hrest', h => by
    have hkind := kind_eq_of_render h
    match v', hkind with
    | .num n', _ =>
      obtain ⟨rfl, hdone⟩ := NumberText.cancel hrest hrest' h
      exact ⟨rfl, hdone⟩
  | .str s, v', rest, rest', _, _, h => by
    have hkind := kind_eq_of_render h
    match v', hkind with
    | .str s', _ =>
      obtain ⟨rfl, hdone⟩ := quote_cancel h
      exact ⟨rfl, hdone⟩
  | .arr items, v', rest, rest', _, _, h => by
    have hkind := kind_eq_of_render h
    match v', hkind with
    | .arr items', _ =>
      simp only [render, renderItems_eq, List.cons_append, List.append_assoc, List.nil_append,
        List.cons.injEq, true_and] at h
      obtain ⟨rfl, hdone⟩ := commaJoin_cancel (by decide) (by decide)
        (render_head_ne (by decide)) items items' (renderItems_cancel items) rest rest' h
      exact ⟨rfl, hdone⟩
  | .obj fields, v', rest, rest', _, _, h => by
    have hkind := kind_eq_of_render h
    match v', hkind with
    | .obj fields', _ =>
      simp only [render, renderFields_eq, List.cons_append, List.append_assoc, List.nil_append,
        List.cons.injEq, true_and] at h
      obtain ⟨rfl, hdone⟩ := commaJoin_cancel (by decide) (by decide)
        (fun f => ⟨'"', _, rfl, by decide⟩) fields fields' (renderFields_cancel fields) rest rest' h
      exact ⟨rfl, hdone⟩

theorem renderItems_cancel : ∀ items : List Json, ∀ v ∈ items, ∀ (v' : Json)
    (rest rest' : List Char), Stops rest → Stops rest' →
    render v ++ rest = render v' ++ rest' → v = v' ∧ rest = rest'
  | v :: vs, w, hw, v', rest, rest', hrest, hrest', h => by
    rcases List.mem_cons.mp hw with hwv | hw
    · exact hwv ▸ render_cancel v v' rest rest' hrest hrest' (hwv ▸ h)
    · exact renderItems_cancel vs w hw v' rest rest' hrest hrest' h

theorem renderFields_cancel : ∀ fields : List (String × Json), ∀ f ∈ fields,
    ∀ (f' : String × Json) (rest rest' : List Char), Stops rest → Stops rest' →
    fieldText f.1 (render f.2) ++ rest = fieldText f'.1 (render f'.2) ++ rest' →
      f = f' ∧ rest = rest'
  | (k, v) :: fs, f, hf, f', rest, rest', hrest, hrest', h => by
    rcases List.mem_cons.mp hf with hfk | hf
    · subst hfk
      simp only [fieldText, List.append_assoc, List.cons_append] at h
      obtain ⟨hkey, htext⟩ := quote_cancel h
      obtain ⟨hvalue, hdone⟩ := render_cancel v f'.2 rest rest' hrest hrest'
        (List.cons.inj htext).2
      exact ⟨Prod.ext hkey hvalue, hdone⟩
    · exact renderFields_cancel fs f hf f' rest rest' hrest hrest' h

end

/-- **Writing a text loses nothing.** -/
theorem render_injective {v v' : Json} (h : render v = render v') : v = v' :=
  (render_cancel v v' [] [] stops_nil stops_nil (by simpa using h)).1

instance : DecidableEq Json := fun _ _ =>
  decidable_of_iff _ ⟨render_injective, fun h => congrArg render h⟩

/-! ## Up to the order of the fields -/

/-- Equal up to the order of the fields of objects. -/
def Json.Same (v v' : Json) : Prop := sortKeys v = sortKeys v'

instance : DecidableRel Json.Same := fun v v' =>
  inferInstanceAs (Decidable (sortKeys v = sortKeys v'))

@[refl] lemma Json.Same.refl (v : Json) : v.Same v := rfl

@[symm] lemma Json.Same.symm {v v' : Json} (h : v.Same v') : v'.Same v := Eq.symm h

lemma Json.Same.trans {v v' v'' : Json} (h : v.Same v') (h' : v'.Same v'') : v.Same v'' :=
  Eq.trans h h'

/-- Sorting goes through a map that keeps the keys. -/
lemma map_insertionSort_keyLe {α β : Type} (g : String × α → String × β)
    (hg : ∀ f, (g f).1 = f.1) (fields : List (String × α)) :
    (fields.insertionSort keyLe).map g = (fields.map g).insertionSort keyLe :=
  List.map_insertionSort _ _ g fields fun a _ b _ => by simp [keyLe, hg]

mutual

/-- A canonical text is the text of the value in order. -/
theorem canonicalJson_eq : ∀ v : Json, canonicalJson v = render (sortKeys v)
  | .null | .bool true | .bool false | .num _ | .str _ => rfl
  | .arr items => by
    rw [canonicalJson, sortKeys, render, canonicalItems_eq items]
  | .obj fields => by
    rw [canonicalJson, sortKeys, render, renderFields_eq, canonicalFields_eq fields,
      ← map_insertionSort_keyLe (fun f => (f.1, render f.2)) (fun _ => rfl), List.map_map]
    rfl

theorem canonicalItems_eq : ∀ items : List Json,
    canonicalItems items = renderItems (sortItems items)
  | [] => rfl
  | v :: vs => by
    rw [canonicalItems, sortItems, renderItems, canonicalJson_eq v, canonicalItems_eq vs]

theorem canonicalFields_eq : ∀ fields : List (String × Json),
    canonicalFields fields = (sortFields fields).map fun f => (f.1, render f.2)
  | [] => rfl
  | (k, v) :: fs => by
    rw [canonicalFields, sortFields, List.map_cons, canonicalJson_eq v, canonicalFields_eq fs]

end

/-- **Canonical texts compare values up to the order of fields.** -/
theorem canonicalJson_eq_iff {v v' : Json} : canonicalJson v = canonicalJson v' ↔ v.Same v' := by
  rw [canonicalJson_eq, canonicalJson_eq]
  exact ⟨render_injective, fun h => congrArg render h⟩

/-! ## Why sorting loses only the order -/

/-- A character can be told from what follows it. -/
lemma codeUnits_cancel {c c' : Char} {rest rest' : List ℕ}
    (h : codeUnits c ++ rest = codeUnits c' ++ rest') : c = c' ∧ rest = rest' := by
  have hc : c.toNat < 0xD800 ∨ 0xDFFF < c.toNat ∧ c.toNat < 0x110000 := c.valid
  have hc' : c'.toNat < 0xD800 ∨ 0xDFFF < c'.toNat ∧ c'.toNat < 0x110000 := c'.valid
  have hnat : c.toNat = c'.toNat ∧ rest = rest' := by
    unfold codeUnits at h
    split_ifs at h with hlt hlt' hlt' <;>
      simp only [List.cons_append, List.nil_append, List.cons.injEq] at h
    · exact h
    · omega
    · omega
    · exact ⟨by omega, h.2.2⟩
  exact ⟨Char.toNat_inj.mp hnat.1, hnat.2⟩

lemma codeUnits_ne_nil (c : Char) : codeUnits c ≠ [] := by
  unfold codeUnits
  split_ifs <;> simp

lemma utf16_injective {s s' : String} (h : utf16 s = utf16 s') : s = s' := by
  have key : ∀ cs cs' : List Char, cs.flatMap codeUnits = cs'.flatMap codeUnits → cs = cs' := by
    intro cs
    induction cs with
    | nil =>
      intro cs' h
      cases cs' with
      | nil => rfl
      | cons c' cs' => simp [codeUnits_ne_nil] at h
    | cons c cs ih =>
      intro cs' h
      cases cs' with
      | nil => simp [codeUnits_ne_nil] at h
      | cons c' cs' =>
        obtain ⟨rfl, htail⟩ := codeUnits_cancel h
        rw [ih cs' htail]
  exact String.toList_inj.mp (key _ _ h)

lemma sortFields_eq (fields : List (String × Json)) :
    sortFields fields = fields.map fun f => (f.1, sortKeys f.2) := by
  induction fields with
  | nil => rfl
  | cons f fs ih => rw [sortFields, ih, List.map_cons]

/-- Objects with the same fields in another order are the same. -/
theorem Json.Same.of_perm {fields fields' : List (String × Json)} (h : fields.Perm fields')
    (hkeys : (fields.map Prod.fst).Nodup) : (Json.obj fields).Same (Json.obj fields') := by
  have hperm : (sortFields fields).Perm (sortFields fields') := by
    rw [sortFields_eq, sortFields_eq]
    exact h.map _
  have hsorted : ((sortFields fields).insertionSort keyLe).Perm
      ((sortFields fields').insertionSort keyLe) :=
    (List.perm_insertionSort _ _).trans (hperm.trans (List.perm_insertionSort _ _).symm)
  have hmem : ∀ f ∈ sortFields fields, ∀ f' ∈ sortFields fields, f.1 = f'.1 → f = f' := by
    rw [sortFields_eq]
    intro f hf f' hf' hkey
    obtain ⟨g, hg, rfl⟩ := List.mem_map.mp hf
    obtain ⟨g', hg', rfl⟩ := List.mem_map.mp hf'
    rw [List.inj_on_of_nodup_map hkeys hg hg' hkey]
  have htrans : IsTrans (String × Json) keyLe := ⟨fun f f' f'' h h' => by
    unfold keyLe at h h' ⊢
    exact le_trans h h'⟩
  have htotal : Std.Total (keyLe : String × Json → String × Json → Prop) := ⟨fun _ _ => le_total _ _⟩
  unfold Same
  simp only [sortKeys, Json.obj.injEq]
  refine hsorted.eq_of_pairwise ?_ (List.pairwise_insertionSort _ _)
    (List.pairwise_insertionSort _ _)
  intro f f' hf hf' hle hle'
  refine hmem f ((List.perm_insertionSort _ _).mem_iff.mp hf) f'
    (hperm.mem_iff.mpr ((List.perm_insertionSort _ _).mem_iff.mp hf')) ?_
  exact utf16_injective (le_antisymm hle hle')

example : (Json.obj [("b", .null), ("a", .bool true)]).Same
    (Json.obj [("a", .bool true), ("b", .null)]) := by decide

end Script
