import Mathlib.Algebra.Order.Ring.Nat
import Mathlib.Data.List.DropRight
import Mathlib.Data.List.Infix
import Mathlib.Data.Nat.Basic

/-!
# Texts divided by separators, and numerals

`split` with a separator of one character is `List.splitOn`.  Here is what is before the last
segment, `split` with a separator of two equal characters (`splitOnPair`), which cuts a text where
two of them stand together, and the value of a numeral in a base up to sixteen.
-/

namespace Script

variable {α : Type}

/-! ## The last segment -/

/-- Segments are joined by writing the separator after all but the last. -/
lemma intercalate_concat (sep : List α) (init : List (List α)) (last : List α) :
    sep.intercalate (init ++ [last]) = init.flatMap (· ++ sep) ++ last := by
  induction init with
  | nil => simp
  | cons seg init ih =>
    rw [List.cons_append, List.intercalate_cons_of_ne_nil (by simp), ih]
    simp

/-- What joined segments consist of. -/
lemma mem_intercalate {sep : List α} {segs : List (List α)} {c : α}
    (h : c ∈ sep.intercalate segs) : c ∈ sep ∨ ∃ seg ∈ segs, c ∈ seg := by
  induction segs with
  | nil => simp at h
  | cons seg segs ih =>
    cases segs with
    | nil => exact .inr ⟨seg, by simp, by simpa using h⟩
    | cons seg' segs =>
      rw [List.intercalate_cons_cons, List.mem_append, List.mem_append] at h
      rcases h with (h | h) | h
      · exact .inr ⟨seg, by simp, h⟩
      · exact .inl h
      · rcases ih h with h | ⟨seg'', hin, h⟩
        · exact .inl h
        · exact .inr ⟨seg'', List.mem_cons_of_mem _ hin, h⟩

variable [DecidableEq α] {sep : α}

/-- A text that is empty or ends with the separator. -/
def EndsWith (sep : α) (text : List α) : Prop := text = [] ∨ ∃ init, text = init ++ [sep]

lemma endsWith_rdropWhile (text : List α) : EndsWith sep (text.rdropWhile (· ≠ sep)) := by
  by_cases hnil : text.rdropWhile (· ≠ sep) = []
  · exact .inl hnil
  · have hlast := List.rdropWhile_last_not (fun c => decide (c ≠ sep)) text hnil
    refine .inr ⟨(text.rdropWhile (· ≠ sep)).dropLast, ?_⟩
    conv_lhs => rw [← List.dropLast_append_getLast hnil]
    simpa using hlast

lemma rtakeWhile_append {pre last : List α} (hpre : EndsWith sep pre) (hlast : sep ∉ last) :
    (pre ++ last).rtakeWhile (· ≠ sep) = last := by
  induction last using List.reverseRecOn with
  | nil => rcases hpre with rfl | ⟨init, rfl⟩ <;> simp
  | append_singleton last c ih =>
    simp only [List.mem_append, List.mem_singleton, not_or] at hlast
    rw [← List.append_assoc, List.rtakeWhile_concat_pos _ _ _ (by simpa using Ne.symm hlast.2),
      ih hlast.1]

lemma not_mem_rtakeWhile (text : List α) : sep ∉ text.rtakeWhile (· ≠ sep) := fun hin => by
  simpa using List.mem_rtakeWhile_imp hin

omit [DecidableEq α] in
/-- The last part of a text that ends with the separator. -/
lemma EndsWith.of_append {pre last : List α} (h : EndsWith sep (pre ++ last)) :
    EndsWith sep last := by
  by_cases hnil : last = []
  · exact .inl hnil
  · rcases h with h | ⟨init, h⟩
    · exact absurd (List.append_eq_nil_iff.mp h).2 hnil
    · refine .inr ⟨last.dropLast, ?_⟩
      have hlast := congrArg List.getLast? h
      rw [List.getLast?_append_of_ne_nil _ hnil, List.getLast?_concat,
        List.getLast?_eq_some_getLast hnil] at hlast
      conv_lhs => rw [← List.dropLast_append_getLast hnil, Option.some.inj hlast]

/-- The segments of a text to which more is written after its last separator. -/
lemma splitOn_append {pre : List α} (hpre : EndsWith sep pre) (text : List α) :
    (pre ++ text).splitOn sep = (pre.splitOn sep).dropLast ++ text.splitOn sep := by
  rcases hpre with rfl | ⟨init, rfl⟩
  · simp
  · have hinit : (init ++ [sep]).splitOn sep = init.splitOn sep ++ [[]] := by
      rw [List.splitOn_append_cons_self]
      simp
    rw [hinit, List.append_assoc, List.singleton_append, List.splitOn_append_cons_self]
    simp

/-! ## Two separators together -/

/-- `split` with the separator `sep` twice. -/
def splitOnPair (sep : α) : List α → List (List α)
  | [] => [[]]
  | [c] => [[c]]
  | c :: d :: rest =>
    if c = sep ∧ d = sep then [] :: splitOnPair sep rest
    else (splitOnPair sep (d :: rest)).modifyHead (c :: ·)

/-- No two separators stand together, and none at the end. -/
def NoPair (sep : α) : List α → Prop
  | [] => True
  | [c] => c ≠ sep
  | c :: d :: rest => ¬ (c = sep ∧ d = sep) ∧ NoPair sep (d :: rest)

lemma splitOnPair_ne_nil (text : List α) : splitOnPair sep text ≠ [] := by
  fun_induction splitOnPair sep text with
  | case1 => simp
  | case2 => simp
  | case3 => simp
  | case4 c d rest _ ih =>
    obtain ⟨half, halves, hsplit⟩ := List.exists_cons_of_ne_nil ih
    simp [hsplit]

/-- The halves make up the text. -/
lemma intercalate_splitOnPair (sep : α) (text : List α) :
    [sep, sep].intercalate (splitOnPair sep text) = text := by
  fun_induction splitOnPair sep text with
  | case1 => simp
  | case2 => simp
  | case3 c d rest hpair ih =>
    obtain ⟨rfl, rfl⟩ := hpair
    rw [List.intercalate_cons_of_ne_nil (splitOnPair_ne_nil rest), ih]
    simp
  | case4 c d rest _ ih =>
    obtain ⟨half, halves, hsplit⟩ := List.exists_cons_of_ne_nil (splitOnPair_ne_nil (d :: rest))
    rw [hsplit] at ih ⊢
    simp [ih]

lemma splitOnPair_of_noPair {text : List α} (h : NoPair sep text) :
    splitOnPair sep text = [text] := by
  fun_induction splitOnPair sep text with
  | case1 => rfl
  | case2 => rfl
  | case3 c d rest hpair => exact absurd hpair h.1
  | case4 c d rest _ ih => simp [ih h.2]

lemma splitOnPair_append_pair {text : List α} (h : NoPair sep text) (rest : List α) :
    splitOnPair sep (text ++ sep :: sep :: rest) = text :: splitOnPair sep rest := by
  fun_induction NoPair sep text with
  | case1 => simp [splitOnPair]
  | case2 c => simp [splitOnPair, h]
  | case3 c d text ih =>
    rw [List.cons_append, List.cons_append, splitOnPair, if_neg h.1, ← List.cons_append, ih h.2]
    rfl

/-- What is written after a text, and does not start with the separator, belongs to the last half of
the text. -/
lemma splitOnPair_append {text last : List α} {halves : List (List α)} {c : α} {more : List α}
    (hsplit : splitOnPair sep text = halves ++ [last]) (hmore : NoPair sep (c :: more))
    (hc : c ≠ sep) :
    splitOnPair sep (text ++ c :: more) = halves ++ [last ++ c :: more] := by
  fun_induction splitOnPair sep text generalizing halves last with
  | case1 =>
    obtain ⟨rfl, hlast⟩ := List.append_inj' (hsplit.symm.trans (List.nil_append _).symm) rfl
    obtain rfl := List.singleton_inj.mp hlast
    simpa using splitOnPair_of_noPair hmore
  | case2 d =>
    obtain ⟨rfl, hlast⟩ := List.append_inj' (hsplit.symm.trans (List.nil_append _).symm) rfl
    obtain rfl := List.singleton_inj.mp hlast
    have hpair : ¬ (d = sep ∧ c = sep) := fun h => hc h.2
    simp [splitOnPair, hpair, splitOnPair_of_noPair hmore]
  | case3 d e rest hpair ih =>
    cases halves with
    | nil => exact absurd (List.cons.inj hsplit).2 (splitOnPair_ne_nil rest)
    | cons half halves =>
      obtain ⟨rfl, hrest⟩ := List.cons.inj hsplit
      rw [List.cons_append, List.cons_append, splitOnPair, if_pos hpair, ih hrest]
      rfl
  | case4 d e rest hpair ih =>
    obtain ⟨halves', last', hsplit'⟩ : ∃ halves' last',
        splitOnPair sep (e :: rest) = halves' ++ [last'] :=
      ⟨_, _, (List.dropLast_append_getLast (splitOnPair_ne_nil (e :: rest))).symm⟩
    rw [List.cons_append, List.cons_append, splitOnPair, if_neg hpair, ← List.cons_append,
      ih hsplit']
    rw [hsplit'] at hsplit
    cases halves' with
    | nil =>
      obtain ⟨rfl, hlast⟩ := List.append_inj' (hsplit.symm.trans (List.nil_append _).symm) rfl
      obtain rfl := List.singleton_inj.mp hlast
      rfl
    | cons half halves' =>
      have hsplit : (d :: half) :: halves' ++ [last'] = halves ++ [last] := hsplit
      obtain ⟨rfl, hlast⟩ := List.append_inj' hsplit rfl
      obtain rfl := List.singleton_inj.mp hlast
      rfl

omit [DecidableEq α]

lemma noPair_of_not_mem {text : List α} (h : sep ∉ text) : NoPair sep text := by
  fun_induction NoPair sep text with
  | case1 => trivial
  | case2 c => exact fun hc => h (by simp [hc])
  | case3 c d rest ih =>
    exact ⟨fun hpair => h (by simp [hpair.1]), ih fun hin => h (List.mem_cons_of_mem _ hin)⟩

lemma noPair_append {seg rest : List α} {c : α} (hseg : sep ∉ seg) (hc : c ≠ sep)
    (hrest : NoPair sep (c :: rest)) : NoPair sep (seg ++ sep :: c :: rest) := by
  induction seg with
  | nil => exact ⟨fun hpair => hc hpair.2, hrest⟩
  | cons d seg ih =>
    obtain ⟨hd, hseg⟩ : d ≠ sep ∧ sep ∉ seg := by simpa [eq_comm] using hseg
    cases seg with
    | nil => exact ⟨fun hpair => hd hpair.1, ih hseg⟩
    | cons e seg => exact ⟨fun hpair => hd hpair.1, ih hseg⟩

/-- Joined segments that are not empty have no two separators together. -/
lemma noPair_intercalate {segs : List (List α)} (h : ∀ seg ∈ segs, seg ≠ [] ∧ sep ∉ seg) :
    NoPair sep ([sep].intercalate segs) := by
  induction segs with
  | nil => trivial
  | cons seg segs ih =>
    obtain ⟨hseg, hsegs⟩ := List.forall_mem_cons.mp h
    cases segs with
    | nil => simpa using noPair_of_not_mem hseg.2
    | cons seg' segs =>
      obtain ⟨hseg', -⟩ := List.forall_mem_cons.mp hsegs
      obtain ⟨c, more, rfl⟩ := List.exists_cons_of_ne_nil hseg'.1
      have hc : c ≠ sep := fun hc => hseg'.2 (by simp [hc])
      have hrest := ih hsegs
      rw [List.intercalate_cons_cons_left] at hrest
      rw [List.intercalate_cons_cons, List.intercalate_cons_cons_left, List.append_assoc]
      exact noPair_append hseg.2 hc hrest

/-! ## Numerals -/

/-- The value of a digit, in either case. -/
def digitValue (c : Char) : ℕ :=
  if c.isDigit then c.toNat - '0'.toNat
  else if 'a' ≤ c ∧ c ≤ 'f' then c.toNat - 'a'.toNat + 10
  else if 'A' ≤ c ∧ c ≤ 'F' then c.toNat - 'A'.toNat + 10
  else 0

/-- The value of a numeral. -/
def numeral (base : ℕ) (digits : List Char) : ℕ :=
  digits.foldl (fun v c => v * base + digitValue c) 0

lemma digitValue_digitChar {d : ℕ} (h : d < 16) : digitValue d.digitChar = d := by
  revert d
  decide

lemma numeral_concat (base : ℕ) (digits : List Char) (c : Char) :
    numeral base (digits ++ [c]) = numeral base digits * base + digitValue c := by
  simp [numeral]

/-- The text of a number has its value. -/
lemma numeral_toDigits {base : ℕ} (hbase : 1 < base) (hle : base ≤ 16) (n : ℕ) :
    numeral base (Nat.toDigits base n) = n := by
  induction n using Nat.strong_induction_on with
  | _ n ih =>
    by_cases hn : n < base
    · rw [Nat.toDigits_of_lt_base hn]
      simpa [numeral] using digitValue_digitChar (by omega)
    · have hmod : n % base < base := Nat.mod_lt _ (by omega)
      rw [Nat.toDigits_of_base_le hbase (by omega), numeral_concat,
        ih (n / base) (Nat.div_lt_self (by omega) hbase), digitValue_digitChar (by omega)]
      exact Nat.div_add_mod' n base

/-- The digits of a number are digits. -/
lemma mem_toDigits {base : ℕ} (hbase : 1 < base) {n : ℕ} {c : Char}
    (h : c ∈ Nat.toDigits base n) : ∃ d < base, c = d.digitChar := by
  induction n using Nat.strong_induction_on with
  | _ n ih =>
    by_cases hn : n < base
    · rw [Nat.toDigits_of_lt_base hn] at h
      exact ⟨n, hn, List.mem_singleton.mp h⟩
    · rw [Nat.toDigits_of_base_le hbase (by omega)] at h
      rcases List.mem_append.mp h with h | h
      · exact ih (n / base) (Nat.div_lt_self (by omega) hbase) h
      · exact ⟨n % base, Nat.mod_lt _ (by omega), List.mem_singleton.mp h⟩

/-- A numeral is below the power of the base that its length allows. -/
lemma numeral_lt {base : ℕ} {digits : List Char} (h : ∀ c ∈ digits, digitValue c < base) :
    numeral base digits < base ^ digits.length := by
  induction digits using List.reverseRecOn with
  | nil => simp [numeral]
  | append_singleton digits c ih =>
    have hc := h c (by simp)
    have hinit := ih fun c hc => h c (List.mem_append_left _ hc)
    rw [numeral_concat, List.length_append, List.length_singleton, Nat.pow_succ]
    calc numeral base digits * base + digitValue c
        < (numeral base digits + 1) * base := by rw [Nat.add_mul]; omega
      _ ≤ base ^ digits.length * base := Nat.mul_le_mul_right _ hinit

end Script
