import Relaycast.Script.Json

/-!
# Strings of code units

A string of the language is a list of 16-bit code units.  Any list will do: a surrogate may stand
without its partner.  A literal is written from the code points of the string, in which a pair of
surrogates is one character and a surrogate without a partner stands for itself and is escaped; so
a literal is proper text, and it still determines the string (`quoteUnits_cancel`).
-/

namespace Script

abbrev CodeUnit := Fin 0x10000

/-- Half of a character. -/
def IsSurrogate (u : CodeUnit) : Prop := 0xD800 ≤ u.val ∧ u.val < 0xE000

instance : DecidablePred IsSurrogate := fun _ => inferInstanceAs (Decidable (_ ∧ _))

/-- The first half of a character and the second. -/
def IsPair (u v : CodeUnit) : Prop :=
  (0xD800 ≤ u.val ∧ u.val < 0xDC00) ∧ 0xDC00 ≤ v.val ∧ v.val < 0xE000

instance : DecidableRel IsPair := fun _ _ => inferInstanceAs (Decidable (_ ∧ _))

/-- A code point of a string: a character, or half of one. -/
inductive CodePoint
  | scalar (c : Char)
  | surrogate (u : CodeUnit) (h : IsSurrogate u)

namespace CodePoint

/-- The code units of a code point. -/
def units : CodePoint → List ℕ
  | scalar c => codeUnits c
  | surrogate u _ => [u.val]

/-- A code unit that is not part of a pair. -/
def single (u : CodeUnit) : CodePoint :=
  if h : IsSurrogate u then surrogate u h else scalar (Char.ofNat u.val)

/-- The character of a pair. -/
def paired (u v : CodeUnit) : CodePoint :=
  scalar (Char.ofNat (0x10000 + (u.val - 0xD800) * 0x400 + (v.val - 0xDC00)))

/-- How a code point is written inside a string literal: a surrogate is escaped. -/
def escape : CodePoint → List Char
  | scalar c => Script.escape c
  | surrogate u _ =>
    ['\\', 'u', hexDigit (u.val / 0x1000), hexDigit (u.val / 0x100 % 16),
      hexDigit (u.val / 16 % 16), hexDigit (u.val % 16)]

end CodePoint

/-- `StringToCodePoints`. -/
def codePoints : List CodeUnit → List CodePoint
  | [] => []
  | [u] => [.single u]
  | u :: v :: rest =>
    if IsPair u v then .paired u v :: codePoints rest else .single u :: codePoints (v :: rest)

/-- `JSON.stringify` of a string of code units. -/
def quoteUnits (s : List CodeUnit) : List Char :=
  '"' :: (codePoints s).flatMap CodePoint.escape ++ ['"']

/-! ## Code points determine the code units -/

namespace CodePoint

lemma toNat_ofNat {n : ℕ} (h : n < 0xD800 ∨ 0xDFFF < n ∧ n < 0x110000) :
    (Char.ofNat n).toNat = n := by
  have hvalid : n.isValidChar := h
  rw [Char.ofNat, dif_pos hvalid]
  rfl

lemma units_single (u : CodeUnit) : (single u).units = [u.val] := by
  unfold single
  split_ifs with h
  · rfl
  · have hu := u.isLt
    have hnat : (Char.ofNat u.val).toNat = u.val := by
      unfold IsSurrogate at h
      exact toNat_ofNat (by omega)
    rw [units, codeUnits, hnat, if_pos hu]

lemma units_paired {u v : CodeUnit} (h : IsPair u v) : (paired u v).units = [u.val, v.val] := by
  obtain ⟨⟨hu, hu'⟩, hv, hv'⟩ := h
  have hnat : (Char.ofNat (0x10000 + (u.val - 0xD800) * 0x400 + (v.val - 0xDC00))).toNat =
      0x10000 + (u.val - 0xD800) * 0x400 + (v.val - 0xDC00) := toNat_ofNat (by omega)
  have hfirst : 0xD800 + (0x10000 + (u.val - 0xD800) * 0x400 + (v.val - 0xDC00) - 0x10000) / 0x400 =
      u.val := by omega
  have hsecond : 0xDC00 + (0x10000 + (u.val - 0xD800) * 0x400 + (v.val - 0xDC00) - 0x10000) %
      0x400 = v.val := by omega
  rw [paired, units, codeUnits, hnat, if_neg (by omega), hfirst, hsecond]

end CodePoint

lemma flatMap_units (s : List CodeUnit) :
    (codePoints s).flatMap CodePoint.units = s.map Fin.val := by
  fun_induction codePoints s with
  | case1 => rfl
  | case2 u => simp [CodePoint.units_single]
  | case3 u v rest hpair ih => simp [CodePoint.units_paired hpair, ih]
  | case4 u v rest hpair ih =>
    rw [List.flatMap_cons, CodePoint.units_single, ih]
    rfl

lemma codePoints_injective {s s' : List CodeUnit} (h : codePoints s = codePoints s') : s = s' := by
  have hunits : s.map Fin.val = s'.map Fin.val := by
    rw [← flatMap_units, ← flatMap_units, h]
  exact Fin.val_injective.list_map hunits

/-! ## A literal determines the code points -/

namespace CodePoint

/-- What stands at the front of an escaped text: its first code point, and the rest. -/
def unescape : List Char → Option (CodePoint × List Char)
  | '\\' :: 'u' :: 'd' :: x :: y :: z :: rest =>
    some (single (Fin.ofNat 0x10000 (0xD000 + 0x100 * "0123456789abcdef".toList.idxOf x +
      16 * "0123456789abcdef".toList.idxOf y + "0123456789abcdef".toList.idxOf z)), rest)
  | text => (Script.unescape text).map fun read => (.scalar read.1, read.2)

/-- No character is written as a surrogate is. -/
lemma unescape_of_scalar (c : Char) (rest : List Char) : unescape (Script.escape c ++ rest) =
    (Script.unescape (Script.escape c ++ rest)).map fun read => (.scalar read.1, read.2) := by
  unfold Script.escape
  repeat' split
  all_goals first
    | rfl
    | (unfold unescape; split <;> simp_all)

/-- Reading a code point back. -/
lemma unescape_escape (p : CodePoint) (rest : List Char) :
    unescape (p.escape ++ rest) = some (p, rest) := by
  cases p with
  | scalar c => rw [escape, unescape_of_scalar, Script.unescape_escape, Option.map_some]
  | surrogate u h =>
    have hdigit : hexDigit (u.val / 0x1000) = 'd' := by
      have hfirst : u.val / 0x1000 = 13 := by
        unfold IsSurrogate at h
        omega
      rw [hfirst]
      decide
    have hvalue : 0xD000 + 0x100 * (u.val / 0x100 % 16) + 16 * (u.val / 16 % 16) + u.val % 16 =
        u.val := by
      unfold IsSurrogate at h
      omega
    rw [escape, hdigit]
    simp only [List.cons_append, List.nil_append, unescape]
    rw [idxOf_hexDigit _ (by omega), idxOf_hexDigit _ (by omega), idxOf_hexDigit _ (by omega),
      hvalue, Fin.ofNat_val_eq_self, single, dif_pos h]

lemma escape_head (p : CodePoint) : ∃ d rest, p.escape = d :: rest ∧ d ≠ '"' := by
  cases p with
  | scalar c => exact Script.escape_head c
  | surrogate u h => exact ⟨_, _, rfl, by decide⟩

end CodePoint

/-- A string literal ends at its closing quote. -/
lemma quoteUnits_cancel {s s' : List CodeUnit} {rest rest' : List Char}
    (h : quoteUnits s ++ rest = quoteUnits s' ++ rest') : s = s' ∧ rest = rest' := by
  simp only [quoteUnits, List.cons_append, List.append_assoc, List.nil_append, List.cons.injEq,
    true_and] at h
  obtain ⟨hs, hrest⟩ := flatMap_cancel CodePoint.unescape_escape CodePoint.escape_head _ _ h
  exact ⟨codePoints_injective hs, hrest⟩

/-- A pair is a character, a surrogate after it is escaped. -/
example : quoteUnits [0xD83D, 0xDE00, 0xD83D] =
    ['"', '😀', '\\', 'u', 'd', '8', '3', 'd', '"'] := by decide

end Script
