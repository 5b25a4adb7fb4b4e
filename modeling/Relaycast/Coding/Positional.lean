import Mathlib.Data.Nat.Digits.Lemmas

/-!
# Positional numerals

Digits in some base, the most significant first, as a text writes them.  Numerals of one length are
one number only if they are the same; among them the lexicographic order is that of numbers; and of
two numerals without leading zeros the longer one is the larger number.  Together, numerals without
leading zeros are ordered by their length first and then lexicographically
(`shortlex_iff_valueOf_lt`).
-/

namespace Coding

variable {b : ℕ} {xs ys : List ℕ}

/-- The value of digits, the most significant first. -/
def valueOf (b : ℕ) (ds : List ℕ) : ℕ := ds.foldl (fun v d => v * b + d) 0

@[simp] lemma valueOf_nil : valueOf b [] = 0 := rfl

lemma valueOf_concat (ds : List ℕ) (d : ℕ) : valueOf b (ds ++ [d]) = valueOf b ds * b + d := by
  simp [valueOf]

lemma valueOf_eq_ofDigits (ds : List ℕ) : valueOf b ds = Nat.ofDigits b ds.reverse := by
  induction ds using List.reverseRecOn with
  | nil => rfl
  | append_singleton ds d ih =>
    rw [valueOf_concat, ih, List.reverse_append, List.reverse_singleton, List.singleton_append,
      Nat.ofDigits_cons, Nat.mul_comm]
    exact Nat.add_comm _ _

lemma valueOf_append (ds es : List ℕ) :
    valueOf b (ds ++ es) = valueOf b ds * b ^ es.length + valueOf b es := by
  rw [valueOf_eq_ofDigits, List.reverse_append, Nat.ofDigits_append, ← valueOf_eq_ofDigits,
    ← valueOf_eq_ofDigits, List.length_reverse]
  ring

lemma valueOf_cons (d : ℕ) (ds : List ℕ) :
    valueOf b (d :: ds) = d * b ^ ds.length + valueOf b ds := by
  have happend := valueOf_append (b := b) [d] ds
  simpa [valueOf] using happend

/-- Zeros before a numeral change nothing. -/
lemma valueOf_replicate_zero (k : ℕ) (ds : List ℕ) :
    valueOf b (List.replicate k 0 ++ ds) = valueOf b ds := by
  induction k with
  | zero => rfl
  | succ k ih =>
    rw [List.replicate_succ, List.cons_append, valueOf_cons, ih]
    simp

lemma valueOf_lt (hb : 1 < b) (h : ∀ d ∈ xs, d < b) : valueOf b xs < b ^ xs.length := by
  rw [valueOf_eq_ofDigits, ← List.length_reverse]
  exact Nat.ofDigits_lt_base_pow_length hb fun d hd => h d (List.mem_reverse.mp hd)

/-- Numerals of one length and one value are the same. -/
lemma eq_of_valueOf_eq (hb : 1 < b) (hlen : xs.length = ys.length) (hxs : ∀ d ∈ xs, d < b)
    (hys : ∀ d ∈ ys, d < b) (h : valueOf b xs = valueOf b ys) : xs = ys := by
  rw [valueOf_eq_ofDigits, valueOf_eq_ofDigits] at h
  exact List.reverse_injective (Nat.ofDigits_inj_of_len_eq hb (by simpa using hlen)
    (fun d hd => hxs d (List.mem_reverse.mp hd)) (fun d hd => hys d (List.mem_reverse.mp hd)) h)

/-- The digits of a number, the most significant first; none for zero. -/
lemma valueOf_digits (n : ℕ) : valueOf b (Nat.digits b n).reverse = n := by
  rw [valueOf_eq_ofDigits, List.reverse_reverse, Nat.ofDigits_digits]

/-! ## Order -/

/-- Numerals of one length are ordered lexicographically. -/
lemma valueOf_lt_iff_lt (hb : 1 < b) (hlen : xs.length = ys.length) (hxs : ∀ d ∈ xs, d < b)
    (hys : ∀ d ∈ ys, d < b) : valueOf b xs < valueOf b ys ↔ xs < ys := by
  induction xs generalizing ys with
  | nil =>
    obtain rfl := List.length_eq_zero_iff.mp hlen.symm
    simp
  | cons x xs ih =>
    cases ys with
    | nil => simp at hlen
    | cons y ys =>
      have hlen' : xs.length = ys.length := Nat.succ.inj hlen
      have hltx := valueOf_lt hb fun d hd => hxs d (List.mem_cons_of_mem _ hd)
      have hlty := valueOf_lt hb fun d hd => hys d (List.mem_cons_of_mem _ hd)
      have hrest := ih hlen' (fun d hd => hxs d (List.mem_cons_of_mem _ hd))
        fun d hd => hys d (List.mem_cons_of_mem _ hd)
      rw [hlen'] at hltx
      rw [valueOf_cons, valueOf_cons, hlen', List.cons_lt_cons_iff]
      rcases Nat.lt_trichotomy x y with hxy | rfl | hxy
      · have hstep : (x + 1) * b ^ ys.length ≤ y * b ^ ys.length := Nat.mul_le_mul_right _ hxy
        rw [Nat.add_mul, Nat.one_mul] at hstep
        exact ⟨fun _ => .inl hxy, fun _ => by omega⟩
      · rw [Nat.add_lt_add_iff_left, hrest]
        simp
      · have hstep : (y + 1) * b ^ ys.length ≤ x * b ^ ys.length := Nat.mul_le_mul_right _ hxy
        rw [Nat.add_mul, Nat.one_mul] at hstep
        constructor
        · intro h
          omega
        · rintro (h | ⟨h, -⟩) <;> omega

/-- Without leading zeros, the longer numeral is the larger number. -/
lemma valueOf_lt_of_length_lt (hb : 1 < b) (hlen : xs.length < ys.length) (hxs : ∀ d ∈ xs, d < b)
    (hhead : ys.head? ≠ some 0) : valueOf b xs < valueOf b ys := by
  cases ys with
  | nil => simp at hlen
  | cons y ys =>
    have hy : 0 < y := Nat.pos_of_ne_zero fun h => hhead (by simp [h])
    have hle : b ^ xs.length ≤ b ^ ys.length :=
      Nat.pow_le_pow_right (by omega) (Nat.le_of_lt_succ hlen)
    have hstep : 1 * b ^ ys.length ≤ y * b ^ ys.length := Nat.mul_le_mul_right _ hy
    have hlt := valueOf_lt hb hxs
    rw [valueOf_cons]
    omega

/-- A numeral without leading zeros: those of zero are one digit. -/
def Canonical (ds : List ℕ) : Prop := ds ≠ [] ∧ (ds.head? = some 0 → ds = [0])

lemma Canonical.head_ne_zero {ds : List ℕ} (h : Canonical ds) (hlen : 1 < ds.length) :
    ds.head? ≠ some 0 := by
  intro hhead
  have hds := h.2 hhead
  simp [hds] at hlen

/-- **By length first, and lexicographically among those of one length.** -/
theorem shortlex_iff_valueOf_lt (hb : 1 < b) (hxs : ∀ d ∈ xs, d < b) (hys : ∀ d ∈ ys, d < b)
    (hcx : Canonical xs) (hcy : Canonical ys) :
    (xs.length < ys.length ∨ xs.length = ys.length ∧ xs < ys) ↔ valueOf b xs < valueOf b ys := by
  have hx := List.length_pos_iff.mpr hcx.1
  have hy := List.length_pos_iff.mpr hcy.1
  rcases Nat.lt_trichotomy xs.length ys.length with hlen | hlen | hlen
  · have hlt := valueOf_lt_of_length_lt hb hlen hxs (hcy.head_ne_zero (by omega))
    simp [hlen, hlt]
  · rw [valueOf_lt_iff_lt hb hlen hxs hys]
    simp [hlen]
  · have hlt := valueOf_lt_of_length_lt hb hlen hys (hcx.head_ne_zero (by omega))
    constructor
    · rintro (h | ⟨h, -⟩) <;> omega
    · intro h
      omega

end Coding
