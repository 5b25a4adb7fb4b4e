import Mathlib.Algebra.Group.Nat.Defs
import Mathlib.Data.Nat.Notation
import Mathlib.Logic.Function.Iterate

/-!
# Reflected cyclic redundancy checks

The remainder of a text, with its least significant bit first.  Shifting the remainder by one place
is linear in exclusive or, and injective if the polynomial's last coefficient is there; so eight
shifts are, and so is the remainder as a function of where it starts.  Over four bytes in a row a
difference of the bytes is one of the remainder before all of their shifts (`remainder_eq_word`):
texts that differ nowhere else have different remainders (`remainder_ne`).
-/

namespace Coding

variable {poly x y c : BitVec 32}

/-- One shift of a remainder. -/
def crcShift (poly c : BitVec 32) : BitVec 32 := if c &&& 1#32 = 1#32 then poly ^^^ (c >>> 1) else c >>> 1

lemma and_one_eq_one_iff : c &&& 1#32 = 1#32 ↔ c.getLsbD 0 = true := by
  have hand : c &&& 1#32 = BitVec.setWidth 32 (BitVec.ofBool (c.getLsbD 0)) :=
    BitVec.and_one_eq_setWidth_ofBool_getLsbD
  rw [hand]
  cases c.getLsbD 0 <;> decide

lemma xor_xor_xor_cancel (p x y : BitVec 32) : (p ^^^ x) ^^^ (p ^^^ y) = x ^^^ y := by
  calc (p ^^^ x) ^^^ (p ^^^ y) = (p ^^^ p) ^^^ (x ^^^ y) := by ac_rfl
    _ = x ^^^ y := by rw [BitVec.xor_self, BitVec.zero_xor]

lemma crcShift_xor : crcShift poly (x ^^^ y) = crcShift poly x ^^^ crcShift poly y := by
  simp only [crcShift, and_one_eq_one_iff, BitVec.getLsbD_xor, BitVec.ushiftRight_xor_distrib]
  cases x.getLsbD 0 <;> cases y.getLsbD 0
  · simp
  · simp only [Bool.false_xor, Bool.false_eq_true, if_true, if_false]
    ac_rfl
  · simp only [Bool.xor_false, Bool.false_eq_true, if_true, if_false]
    ac_rfl
  · simp only [Bool.xor_self, Bool.false_eq_true, if_true, if_false]
    exact (xor_xor_xor_cancel poly _ _).symm

lemma getLsbD_ushiftRight_one_last : (c >>> 1).getLsbD 31 = false := by
  rw [BitVec.getLsbD_ushiftRight]
  exact BitVec.getLsbD_of_ge c _ (by omega)

/-- A remainder that a shift makes zero was zero. -/
lemma eq_zero_of_crcShift (hpoly : poly.getLsbD 31 = true) (h : crcShift poly c = 0) : c = 0 := by
  simp only [crcShift, and_one_eq_one_iff] at h
  cases hlow : c.getLsbD 0 with
  | true =>
    rw [hlow, if_pos rfl] at h
    have htop : (poly ^^^ (c >>> 1)).getLsbD 31 = true := by
      rw [BitVec.getLsbD_xor, hpoly, getLsbD_ushiftRight_one_last]
      rfl
    rw [h] at htop
    simp at htop
  | false =>
    rw [hlow, if_neg Bool.false_ne_true] at h
    refine BitVec.eq_of_getLsbD_eq fun i hi => ?_
    rcases Nat.eq_zero_or_pos i with rfl | hpos
    · simpa using hlow
    · have hbit := congrArg (fun b : BitVec 32 => b.getLsbD (i - 1)) h
      simp only [BitVec.getLsbD_ushiftRight] at hbit
      rw [show 1 + (i - 1) = i by omega] at hbit
      simpa using hbit

lemma crcShift_injective (hpoly : poly.getLsbD 31 = true) : Function.Injective (crcShift poly) := by
  intro x y h
  have hzero : crcShift poly (x ^^^ y) = 0 := by
    rw [crcShift_xor, h]
    exact BitVec.xor_self
  exact BitVec.xor_eq_zero_iff.mp (eq_zero_of_crcShift hpoly hzero)

/-- A shift takes back one to the left. -/
lemma crcShift_shiftLeft {k : ℕ} (h : x.toNat < 2 ^ (31 - k)) :
    crcShift poly (x <<< (k + 1)) = x <<< k := by
  have hlow : ¬ (x <<< (k + 1) &&& 1#32 = 1#32) := by
    rw [and_one_eq_one_iff]
    simp
  rw [crcShift, if_neg hlow]
  refine BitVec.eq_of_getLsbD_eq fun i hi => ?_
  simp only [BitVec.getLsbD_ushiftRight, BitVec.getLsbD_shiftLeft]
  by_cases hlast : i = 31
  · subst hlast
    have hbit : x.getLsbD (31 - k) = false := by
      exact Nat.testBit_lt_two_pow h
    simp [hbit]
  · have hlt : 1 + i < 32 := by omega
    rw [show 1 + i - (k + 1) = i - k by omega]
    simp only [hlt, hi, decide_true, Bool.true_and]
    have hiff : decide (1 + i < k + 1) = decide (i < k) := decide_eq_decide.mpr (by omega)
    rw [hiff]

/-! ## Bytes -/

/-- Eight shifts. -/
def crcByte (poly c : BitVec 32) : BitVec 32 := (crcShift poly)^[8] c

lemma iterate_crcShift_xor (n : ℕ) :
    (crcShift poly)^[n] (x ^^^ y) = (crcShift poly)^[n] x ^^^ (crcShift poly)^[n] y := by
  induction n generalizing x y with
  | zero => rfl
  | succ n ih => rw [Function.iterate_succ_apply, Function.iterate_succ_apply,
      Function.iterate_succ_apply, crcShift_xor, ih]

lemma crcByte_xor : crcByte poly (x ^^^ y) = crcByte poly x ^^^ crcByte poly y :=
  iterate_crcShift_xor 8

lemma crcByte_injective (hpoly : poly.getLsbD 31 = true) : Function.Injective (crcByte poly) :=
  (crcShift_injective hpoly).iterate 8

/-- Eight shifts take back eight to the left. -/
lemma crcByte_shiftLeft (h : x.toNat < 2 ^ 24) : crcByte poly (x <<< 8) = x := by
  have hshift : ∀ k ≤ 8, (crcShift poly)^[k] (x <<< k) = x := by
    intro k hk
    induction k with
    | zero => simp
    | succ k ih =>
      have hlt : x.toNat < 2 ^ (31 - k) :=
        Nat.lt_of_lt_of_le h (Nat.pow_le_pow_right (by omega) (by omega))
      rw [Function.iterate_succ_apply, crcShift_shiftLeft hlt, ih (by omega)]
  exact hshift 8 (Nat.le_refl 8)

lemma ushiftRight_eight_lt : (x >>> 8).toNat < 2 ^ 24 := by
  rw [BitVec.toNat_ushiftRight, Nat.shiftRight_eq_div_pow]
  have hlt := x.isLt
  omega

/-- A remainder is its last byte and the rest of it. -/
lemma eq_and_xor_shiftLeft : x = (x &&& 255#32) ^^^ ((x >>> 8) <<< 8) := by
  refine BitVec.eq_of_getLsbD_eq fun i hi => ?_
  have hmask : (255#32).getLsbD i = decide (i < 8) := Nat.testBit_two_pow_sub_one 8 i
  simp only [BitVec.getLsbD_xor, BitVec.getLsbD_and, BitVec.getLsbD_shiftLeft,
    BitVec.getLsbD_ushiftRight, hmask]
  by_cases h : i < 8
  · simp [h]
  · rw [show 8 + (i - 8) = i by omega]
    simp [h, hi]

/-- What a table of the shifts of bytes computes. -/
lemma crcByte_eq_table : crcByte poly x = crcByte poly (x &&& 255#32) ^^^ (x >>> 8) := by
  calc crcByte poly x = crcByte poly ((x &&& 255#32) ^^^ ((x >>> 8) <<< 8)) := by
        rw [← eq_and_xor_shiftLeft]
    _ = crcByte poly (x &&& 255#32) ^^^ (x >>> 8) := by
        rw [crcByte_xor, crcByte_shiftLeft ushiftRight_eight_lt]

/-! ## Texts -/

/-- The remainder of bytes that follow the remainder `c`. -/
def remainder (poly c : BitVec 32) (bytes : List (BitVec 32)) : BitVec 32 :=
  bytes.foldl (fun c b => crcByte poly (c ^^^ b)) c

lemma remainder_append (bytes bytes' : List (BitVec 32)) :
    remainder poly c (bytes ++ bytes') = remainder poly (remainder poly c bytes) bytes' :=
  List.foldl_append

/-- What follows keeps remainders apart. -/
lemma remainder_injective (hpoly : poly.getLsbD 31 = true) (bytes : List (BitVec 32)) :
    Function.Injective fun c => remainder poly c bytes := by
  induction bytes with
  | nil => exact fun _ _ h => h
  | cons b bytes ih =>
    intro x y h
    have hstep := crcByte_injective hpoly (ih h)
    simpa using congrArg (· ^^^ b) hstep

/-- Bytes as one number, the least significant first. -/
def word : List (BitVec 32) → BitVec 32
  | [] => 0
  | b :: bytes => b ^^^ (word bytes <<< 8)

/-- Are the numbers bytes? -/
def AreBytes (bytes : List (BitVec 32)) : Prop := ∀ b ∈ bytes, b.toNat < 2 ^ 8

lemma shiftLeft_eight_toNat (h : x.toNat < 2 ^ 24) : (x <<< 8).toNat = x.toNat * 2 ^ 8 := by
  rw [BitVec.toNat_shiftLeft, Nat.shiftLeft_eq]
  exact Nat.mod_eq_of_lt (by omega)

lemma ushiftRight_eight_of_lt {b : BitVec 32} (hb : b.toNat < 2 ^ 8) : b >>> 8 = 0#32 := by
  refine BitVec.eq_of_toNat_eq ?_
  rw [BitVec.toNat_ushiftRight, Nat.shiftRight_eq_div_pow]
  exact Nat.div_eq_of_lt hb

/-- The bytes after the first one. -/
lemma word_cons_ushiftRight {b : BitVec 32} {bytes : List (BitVec 32)} (hb : b.toNat < 2 ^ 8)
    (hlt : (word bytes).toNat < 2 ^ 24) : word (b :: bytes) >>> 8 = word bytes := by
  have hrest : (word bytes <<< 8) >>> 8 = word bytes := by
    refine BitVec.eq_of_toNat_eq ?_
    rw [BitVec.toNat_ushiftRight, Nat.shiftRight_eq_div_pow, shiftLeft_eight_toNat hlt]
    exact Nat.mul_div_cancel _ (by omega)
  rw [word, BitVec.ushiftRight_xor_distrib, ushiftRight_eight_of_lt hb, hrest, BitVec.zero_xor]

/-- So many bytes make a number so large. -/
lemma word_lt {bytes : List (BitVec 32)} (hbytes : AreBytes bytes) (hlen : bytes.length ≤ 4) :
    (word bytes).toNat < 2 ^ (8 * bytes.length) := by
  induction bytes with
  | nil => simp [word]
  | cons b bytes ih =>
    have hlen' : bytes.length ≤ 3 := Nat.le_of_succ_le_succ hlen
    have hrest := ih (fun b' hb' => hbytes b' (List.mem_cons_of_mem _ hb')) (by omega)
    have hlt : (word bytes).toNat < 2 ^ 24 :=
      Nat.lt_of_lt_of_le hrest (Nat.pow_le_pow_right (by omega) (by omega))
    have hpow : 2 ^ (8 * (b :: bytes).length) = 2 ^ (8 * bytes.length) * 2 ^ 8 := by
      rw [← Nat.pow_add]
      rfl
    have hone : 1 * 2 ^ 8 ≤ 2 ^ (8 * bytes.length) * 2 ^ 8 :=
      Nat.mul_le_mul_right _ (Nat.one_le_two_pow)
    rw [word, BitVec.toNat_xor]
    refine Nat.xor_lt_two_pow ?_ ?_
    · have hb := hbytes b List.mem_cons_self
      omega
    · rw [shiftLeft_eight_toNat hlt, hpow]
      exact Nat.mul_lt_mul_of_pos_right hrest (by omega)

lemma word_lt_of_length_le {bytes : List (BitVec 32)} (hbytes : AreBytes bytes)
    (hlen : bytes.length ≤ 3) : (word bytes).toNat < 2 ^ 24 :=
  Nat.lt_of_lt_of_le (word_lt hbytes (by omega)) (Nat.pow_le_pow_right (by omega) (by omega))

/-- Four bytes in a row, in one. -/
lemma remainder_eq_word {bytes : List (BitVec 32)} (hbytes : AreBytes bytes)
    (hlen : bytes.length ≤ 4) (c : BitVec 32) :
    remainder poly c bytes = (crcByte poly)^[bytes.length] (c ^^^ word bytes) := by
  induction bytes generalizing c with
  | nil => simp [remainder, word]
  | cons b bytes ih =>
    have hbytes' : AreBytes bytes := fun b' hb' => hbytes b' (List.mem_cons_of_mem _ hb')
    have hlen' : bytes.length ≤ 3 := Nat.le_of_succ_le_succ hlen
    calc remainder poly c (b :: bytes)
        = (crcByte poly)^[bytes.length] (crcByte poly (c ^^^ b) ^^^ word bytes) :=
          ih hbytes' (by omega) _
      _ = (crcByte poly)^[bytes.length] (crcByte poly (c ^^^ b) ^^^
            crcByte poly (word bytes <<< 8)) := by
          rw [crcByte_shiftLeft (word_lt_of_length_le hbytes' hlen')]
      _ = (crcByte poly)^[(b :: bytes).length] (c ^^^ word (b :: bytes)) := by
          rw [← crcByte_xor, List.length_cons, Function.iterate_succ_apply, word, BitVec.xor_assoc]

lemma word_injective {bytes bytes' : List (BitVec 32)} (hbytes : AreBytes bytes)
    (hbytes' : AreBytes bytes') (hlen : bytes.length = bytes'.length) (hfour : bytes.length ≤ 4)
    (h : word bytes = word bytes') : bytes = bytes' := by
  induction bytes generalizing bytes' with
  | nil => exact (List.length_eq_zero_iff.mp hlen.symm).symm
  | cons b bytes ih =>
    cases bytes' with
    | nil => simp at hlen
    | cons b' bytes' =>
      have hrest : AreBytes bytes := fun b' hb' => hbytes b' (List.mem_cons_of_mem _ hb')
      have hrest' : AreBytes bytes' := fun b hb => hbytes' b (List.mem_cons_of_mem _ hb)
      have hlen' : bytes.length = bytes'.length := Nat.succ.inj hlen
      have hthree : bytes.length ≤ 3 := Nat.le_of_succ_le_succ hfour
      have hb := hbytes b List.mem_cons_self
      have hb' := hbytes' b' List.mem_cons_self
      have hword : word bytes = word bytes' := by
        rw [← word_cons_ushiftRight hb (word_lt_of_length_le hrest hthree), h,
          word_cons_ushiftRight hb' (word_lt_of_length_le hrest' (by omega))]
      have hfirst : b = b' := by
        rw [word, word, hword] at h
        exact (BitVec.xor_left_inj _).mp h
      rw [hfirst, ih hrest hrest' hlen' (by omega) hword]

/-- **Bursts.**  Texts that differ in at most four bytes in a row have different remainders. -/
theorem remainder_ne (hpoly : poly.getLsbD 31 = true) {burst burst' : List (BitVec 32)}
    (hbytes : AreBytes burst) (hbytes' : AreBytes burst') (hlen : burst.length = burst'.length)
    (hfour : burst.length ≤ 4) (hne : burst ≠ burst') (c : BitVec 32)
    (before after : List (BitVec 32)) :
    remainder poly c (before ++ burst ++ after) ≠ remainder poly c (before ++ burst' ++ after) := by
  intro h
  rw [remainder_append, remainder_append, remainder_append, remainder_append] at h
  have hburst := remainder_injective hpoly after h
  rw [remainder_eq_word hbytes hfour, remainder_eq_word hbytes' (hlen ▸ hfour), hlen] at hburst
  have hword := (crcByte_injective hpoly).iterate _ hburst
  exact hne (word_injective hbytes hbytes' hlen hfour ((BitVec.xor_right_inj _).mp hword))

end Coding
