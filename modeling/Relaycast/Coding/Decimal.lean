import Relaycast.Coding.Positional
import Relaycast.Script.Segments

/-!
# Decimal texts

The decimal text of a number has no leading zeros, and is the only such text with its value.  By
their lengths first, and as texts among those of one length, decimal texts are ordered as their
numbers are (`shortlex_iff`).  As texts alone they are not, once their lengths differ.
-/

namespace Coding

open Script

variable {text text' : List Char}

/-- Digits, without leading zeros. -/
structure IsDecimal (text : List Char) : Prop where
  nonempty : text ≠ []
  digits : ∀ c ∈ text, c.isDigit = true
  leading : text.head? = some '0' → text = ['0']

lemma digitValue_of_isDigit {c : Char} (h : c.isDigit = true) :
    digitValue c = c.toNat - '0'.toNat := by
  simp [digitValue, h]

lemma isDigit_iff {c : Char} : c.isDigit = true ↔ 48 ≤ c.toNat ∧ c.toNat ≤ 57 := by
  simp only [Char.isDigit, ge_iff_le, Bool.and_eq_true, decide_eq_true_eq, UInt32.le_iff_toNat_le]
  exact Iff.rfl

lemma toNat_zero : '0'.toNat = 48 := rfl

lemma digitValue_lt {c : Char} (h : c.isDigit = true) : digitValue c < 10 := by
  have hc := isDigit_iff.mp h
  rw [digitValue_of_isDigit h, toNat_zero]
  omega

lemma digitValue_injective {c c' : Char} (h : c.isDigit = true) (h' : c'.isDigit = true)
    (heq : digitValue c = digitValue c') : c = c' := by
  have hc := isDigit_iff.mp h
  have hc' := isDigit_iff.mp h'
  rw [digitValue_of_isDigit h, digitValue_of_isDigit h', toNat_zero] at heq
  exact Char.toNat_inj.mp (by omega)

lemma digitValue_lt_iff {c c' : Char} (h : c.isDigit = true) (h' : c'.isDigit = true) :
    digitValue c < digitValue c' ↔ c < c' := by
  have hc := isDigit_iff.mp h
  have hc' := isDigit_iff.mp h'
  rw [digitValue_of_isDigit h, digitValue_of_isDigit h', toNat_zero, Char.lt_def,
    UInt32.lt_iff_toNat_lt]
  change _ ↔ c.toNat < c'.toNat
  omega

/-- What a text of digits is as digits. -/
lemma map_digitValue_lt_iff (hlen : text.length = text'.length)
    (h : ∀ c ∈ text, c.isDigit = true) (h' : ∀ c ∈ text', c.isDigit = true) :
    text.map digitValue < text'.map digitValue ↔ text < text' := by
  induction text generalizing text' with
  | nil =>
    obtain rfl := List.length_eq_zero_iff.mp hlen.symm
    simp
  | cons c text ih =>
    cases text' with
    | nil => simp at hlen
    | cons c' text' =>
      have hc := h c List.mem_cons_self
      have hc' := h' c' List.mem_cons_self
      have hrest := ih (Nat.succ.inj hlen) (fun d hd => h d (List.mem_cons_of_mem _ hd))
        fun d hd => h' d (List.mem_cons_of_mem _ hd)
      have hsame : digitValue c = digitValue c' ↔ c = c' :=
        ⟨digitValue_injective hc hc', congrArg digitValue⟩
      rw [List.map_cons, List.map_cons, List.cons_lt_cons_iff, List.cons_lt_cons_iff,
        digitValue_lt_iff hc hc', hsame, hrest]

lemma numeral_eq_valueOf : numeral 10 text = valueOf 10 (text.map digitValue) := by
  simp [numeral, valueOf, List.foldl_map]

namespace IsDecimal

lemma digits_lt (h : IsDecimal text) : ∀ d ∈ text.map digitValue, d < 10 := by
  intro d hd
  obtain ⟨c, hc, rfl⟩ := List.mem_map.mp hd
  exact digitValue_lt (h.digits c hc)

lemma canonical (h : IsDecimal text) : Canonical (text.map digitValue) := by
  refine ⟨by simpa using h.nonempty, fun hhead => ?_⟩
  cases text with
  | nil => exact absurd rfl h.nonempty
  | cons c rest =>
    have hc := h.digits c List.mem_cons_self
    have hvalue : digitValue c = 0 := by simpa using hhead
    have hzero : c = '0' := digitValue_injective hc (by decide) (hvalue.trans (by decide))
    have htext := h.leading (by simp [hzero])
    rw [htext]
    rfl

/-- **Decimal texts are ordered by length, then as texts.** -/
theorem shortlex_iff (h : IsDecimal text) (h' : IsDecimal text') :
    (text.length < text'.length ∨ text.length = text'.length ∧ text < text') ↔
      numeral 10 text < numeral 10 text' := by
  rw [numeral_eq_valueOf, numeral_eq_valueOf,
    ← shortlex_iff_valueOf_lt (by omega) h.digits_lt h'.digits_lt h.canonical h'.canonical,
    List.length_map, List.length_map]
  refine or_congr_right (and_congr_right fun hlen => ?_)
  exact (map_digitValue_lt_iff hlen h.digits h'.digits).symm

/-- A number has one decimal text. -/
lemma eq_of_numeral_eq (h : IsDecimal text) (h' : IsDecimal text')
    (heq : numeral 10 text = numeral 10 text') : text = text' := by
  have hlt := (h.shortlex_iff h').not.mpr (by omega)
  have hgt := (h'.shortlex_iff h).not.mpr (by omega)
  rcases Nat.lt_trichotomy text.length text'.length with hlen | hlen | hlen
  · exact absurd (.inl hlen) hlt
  · exact List.le_antisymm (fun hgreater => hgt (.inr ⟨hlen.symm, hgreater⟩))
      fun hless => hlt (.inr ⟨hlen, hless⟩)
  · exact absurd (.inl hlen) hgt

end IsDecimal

lemma isDigit_digitChar {d : ℕ} (h : d < 10) : d.digitChar.isDigit = true := by
  revert d
  decide

lemma digitChar_ne_zero {d : ℕ} (hpos : 0 < d) (h : d < 10) : d.digitChar ≠ '0' := by
  have hall : ∀ d < 10, 0 < d → d.digitChar ≠ '0' := by decide
  exact hall d h hpos

lemma numeral_toDigits_ten (n : ℕ) : numeral 10 (Nat.toDigits 10 n) = n :=
  numeral_toDigits (by omega) (by omega) n

lemma head?_toDigits_ne {n : ℕ} (hn : 0 < n) : (Nat.toDigits 10 n).head? ≠ some '0' := by
  induction n using Nat.strong_induction_on with
  | _ n ih =>
    by_cases hlt : n < 10
    · rw [Nat.toDigits_of_lt_base hlt]
      simpa using digitChar_ne_zero hn hlt
    · have hdiv : 0 < n / 10 := by omega
      have hrest := ih (n / 10) (by omega) hdiv
      rw [Nat.toDigits_of_base_le (by omega) (by omega), List.head?_append]
      cases hhead : (Nat.toDigits 10 (n / 10)).head? with
      | none =>
        have hnil := List.head?_eq_none_iff.mp hhead
        have hvalue := numeral_toDigits_ten (n / 10)
        rw [hnil] at hvalue
        exact absurd hvalue (Nat.ne_of_lt hdiv)
      | some c =>
        rw [hhead] at hrest
        simpa using hrest

/-- The decimal text of a number. -/
theorem isDecimal_toDigits (n : ℕ) : IsDecimal (Nat.toDigits 10 n) where
  nonempty hnil := by
    have hlen := congrArg List.length hnil
    by_cases hlt : n < 10
    · simp [Nat.toDigits_of_lt_base hlt] at hlen
    · rw [Nat.toDigits_of_base_le (by omega) (Nat.not_lt.mp hlt)] at hlen
      simp at hlen
  digits c hc := by
    obtain ⟨d, hd, rfl⟩ := mem_toDigits (by omega) hc
    exact isDigit_digitChar hd
  leading hhead := by
    rcases Nat.eq_zero_or_pos n with rfl | hpos
    · rfl
    · exact absurd hhead (head?_toDigits_ne hpos)

/-- A decimal text is that of its number. -/
lemma IsDecimal.toDigits_numeral (h : IsDecimal text) : Nat.toDigits 10 (numeral 10 text) = text :=
  (isDecimal_toDigits _).eq_of_numeral_eq h (numeral_toDigits_ten _)

/-- The order of decimal texts, of the texts of numbers. -/
lemma shortlex_toDigits_iff {m n : ℕ} :
    ((Nat.toDigits 10 m).length < (Nat.toDigits 10 n).length ∨
      (Nat.toDigits 10 m).length = (Nat.toDigits 10 n).length ∧
        Nat.toDigits 10 m < Nat.toDigits 10 n) ↔ m < n := by
  have hiff := (isDecimal_toDigits m).shortlex_iff (isDecimal_toDigits n)
  rwa [numeral_toDigits_ten, numeral_toDigits_ten] at hiff

end Coding
