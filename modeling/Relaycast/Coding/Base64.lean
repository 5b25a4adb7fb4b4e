import Mathlib.Data.List.DropRight
import Mathlib.Data.UInt
import Mathlib.Tactic.IntervalCases

/-!
# Base64

Three bytes are written with four characters of six bits each, and one or two bytes that are left
over with two or three; `=` fills the text up to a multiple of four.  What `btoa` writes is read
back by `atob` (`atob_btoa`), and so is the text for URLs, which has two other characters and no
padding (`fromBase64Url_toBase64Url`).
-/

namespace Coding

/-! ## Writing and reading -/

/-- The alphabet of base64. -/
def base64Chars : List Char :=
  "ABCDEFGHIJKLMNOPQRSTUVWXYZabcdefghijklmnopqrstuvwxyz0123456789+/".toList

/-- The alphabet, for evaluation. -/
lemma base64Chars_eq : base64Chars =
    ['A', 'B', 'C', 'D', 'E', 'F', 'G', 'H', 'I', 'J', 'K', 'L', 'M', 'N', 'O', 'P', 'Q', 'R', 'S',
      'T', 'U', 'V', 'W', 'X', 'Y', 'Z', 'a', 'b', 'c', 'd', 'e', 'f', 'g', 'h', 'i', 'j', 'k', 'l',
      'm', 'n', 'o', 'p', 'q', 'r', 's', 't', 'u', 'v', 'w', 'x', 'y', 'z', '0', '1', '2', '3', '4',
      '5', '6', '7', '8', '9', '+', '/'] :=
  String.toList_ofList

/-- The character of six bits. -/
def base64Char (n : ℕ) : Char := base64Chars[n]?.getD 'A'

/-- The six bits of a character. -/
def base64Value (c : Char) : ℕ := base64Chars.idxOf c

/-- `btoa`. -/
def btoa : List UInt8 → List Char
  | [] => []
  | [a] => [base64Char (a.toNat / 4), base64Char (a.toNat % 4 * 16), '=', '=']
  | [a, b] =>
    [base64Char (a.toNat / 4), base64Char (a.toNat % 4 * 16 + b.toNat / 16),
      base64Char (b.toNat % 16 * 4), '=']
  | a :: b :: c :: rest =>
    base64Char (a.toNat / 4) :: base64Char (a.toNat % 4 * 16 + b.toNat / 16) ::
      base64Char (b.toNat % 16 * 4 + c.toNat / 64) :: base64Char (c.toNat % 64) :: btoa rest

/-- The bytes of characters of the alphabet, four at a time; bits that are left over are dropped. -/
def decodeGroups : List Char → List UInt8
  | a :: b :: c :: d :: rest =>
    let v := ((base64Value a * 64 + base64Value b) * 64 + base64Value c) * 64 + base64Value d
    UInt8.ofNat (v / 65536) :: UInt8.ofNat (v / 256 % 256) :: UInt8.ofNat (v % 256) ::
      decodeGroups rest
  | [a, b, c] =>
    let v := (base64Value a * 64 + base64Value b) * 64 + base64Value c
    [UInt8.ofNat (v / 1024), UInt8.ofNat (v / 4 % 256)]
  | [a, b] => [UInt8.ofNat ((base64Value a * 64 + base64Value b) / 16)]
  | _ => []

/-- Without one `=` at the end. -/
def dropPad (text : List Char) : List Char :=
  if text.getLast? = some '=' then text.dropLast else text

/-- `atob`, of a text without white space. -/
def atob (text : List Char) : Option (List UInt8) :=
  let text := if text.length % 4 = 0 then dropPad (dropPad text) else text
  if text.length % 4 = 1 ∨ text.any (fun c => !base64Chars.contains c) then none
  else some (decodeGroups text)

/-- How a character of base64 is written in a URL. -/
def urlChar (c : Char) : Char := if c = '+' then '-' else if c = '/' then '_' else c

/-- The character of base64 that a character of a URL stands for. -/
def plainChar (c : Char) : Char := if c = '-' then '+' else if c = '_' then '/' else c

/-- `toBase64Url`. -/
def toBase64Url (bytes : List UInt8) : List Char :=
  ((btoa bytes).map urlChar).rdropWhile (· == '=')

/-- `fromBase64Url`, of a text in the alphabet for URLs. -/
def fromBase64Url (text : List Char) : Option (List UInt8) := atob (text.map plainChar)

/-! ## What is written is read back -/

/-- What `btoa` writes before the padding. -/
def unpadded : List UInt8 → List Char
  | [] => []
  | [a] => [base64Char (a.toNat / 4), base64Char (a.toNat % 4 * 16)]
  | [a, b] =>
    [base64Char (a.toNat / 4), base64Char (a.toNat % 4 * 16 + b.toNat / 16),
      base64Char (b.toNat % 16 * 4)]
  | a :: b :: c :: rest =>
    base64Char (a.toNat / 4) :: base64Char (a.toNat % 4 * 16 + b.toNat / 16) ::
      base64Char (b.toNat % 16 * 4 + c.toNat / 64) :: base64Char (c.toNat % 64) :: unpadded rest

lemma base64Char_mem (n : ℕ) : base64Char n ∈ base64Chars := by
  unfold base64Char
  cases hn : base64Chars[n]? with
  | none =>
    rw [Option.getD_none, base64Chars_eq]
    decide
  | some c => exact List.mem_of_getElem? hn

lemma mem_unpadded (bytes : List UInt8) : ∀ c ∈ unpadded bytes, c ∈ base64Chars := by
  induction bytes using unpadded.induct with
  | case1 => simp [unpadded]
  | case2 a =>
    simp only [unpadded, List.forall_mem_cons]
    exact ⟨base64Char_mem _, base64Char_mem _, by simp⟩
  | case3 a b =>
    simp only [unpadded, List.forall_mem_cons]
    exact ⟨base64Char_mem _, base64Char_mem _, base64Char_mem _, by simp⟩
  | case4 a b c rest ih =>
    simp only [unpadded, List.forall_mem_cons]
    exact ⟨base64Char_mem _, base64Char_mem _, base64Char_mem _, base64Char_mem _, ih⟩

/-- The text with its padding, and how much of it there is. -/
lemma btoa_eq (bytes : List UInt8) : ∃ k ≤ 2, btoa bytes = unpadded bytes ++ List.replicate k '=' ∧
    ((unpadded bytes).length + k) % 4 = 0 := by
  induction bytes using btoa.induct with
  | case1 => exact ⟨0, by omega, rfl, rfl⟩
  | case2 a => exact ⟨2, by omega, rfl, by simp [unpadded]⟩
  | case3 a b => exact ⟨1, by omega, rfl, by simp [unpadded]⟩
  | case4 a b c rest ih =>
    obtain ⟨k, hk, htext, hlength⟩ := ih
    refine ⟨k, hk, by simp [btoa, unpadded, htext], ?_⟩
    simp only [unpadded, List.length_cons]
    omega

lemma length_unpadded (bytes : List UInt8) :
    (unpadded bytes).length = (bytes.length * 4 + 2) / 3 := by
  induction bytes using unpadded.induct with
  | case1 => rfl
  | case2 a => simp [unpadded]
  | case3 a b => simp [unpadded]
  | case4 a b c rest ih =>
    simp only [unpadded, List.length_cons, ih]
    omega

lemma mem_btoa (bytes : List UInt8) : ∀ c ∈ btoa bytes, c ∈ base64Chars ++ ['='] := by
  obtain ⟨k, -, htext, -⟩ := btoa_eq bytes
  intro c hc
  rw [htext, List.mem_append] at hc
  rcases hc with hc | hc
  · exact List.mem_append_left _ (mem_unpadded bytes c hc)
  · rw [List.eq_of_mem_replicate hc]
    exact List.mem_append_right _ (List.mem_singleton_self _)

lemma base64Value_base64Char {n : ℕ} (h : n < 64) : base64Value (base64Char n) = n := by
  have hall : ∀ m < 64, base64Value (base64Char m) = m := by
    unfold base64Value base64Char
    rw [base64Chars_eq]
    decide +kernel
  exact hall n h

lemma decodeGroups_unpadded (bytes : List UInt8) : decodeGroups (unpadded bytes) = bytes := by
  have hbyte : ∀ {n} (a : UInt8), n = a.toNat → UInt8.ofNat n = a := by
    rintro n a rfl
    exact UInt8.ofNat_toNat
  induction bytes using unpadded.induct with
  | case1 => rfl
  | case2 a =>
    have ha := a.toNat_lt
    simp only [unpadded, decodeGroups]
    rw [base64Value_base64Char (by omega), base64Value_base64Char (by omega)]
    exact congrArg (· :: []) (hbyte a (by omega))
  | case3 a b =>
    have ha := a.toNat_lt
    have hb := b.toNat_lt
    simp only [unpadded, decodeGroups]
    rw [base64Value_base64Char (by omega), base64Value_base64Char (by omega),
      base64Value_base64Char (by omega), hbyte a (by omega), hbyte b (by omega)]
  | case4 a b c rest ih =>
    have ha := a.toNat_lt
    have hb := b.toNat_lt
    have hc := c.toNat_lt
    simp only [unpadded, decodeGroups]
    rw [base64Value_base64Char (by omega), base64Value_base64Char (by omega),
      base64Value_base64Char (by omega), base64Value_base64Char (by omega), hbyte a (by omega),
      hbyte b (by omega), hbyte c (by omega), ih]

lemma eq_not_mem : '=' ∉ base64Chars := by
  rw [base64Chars_eq]
  decide

lemma dropPad_of_not_mem {text : List Char} (h : '=' ∉ text) : dropPad text = text :=
  if_neg fun hlast => h (List.mem_of_getLast? hlast)

lemma dropPad_concat (text : List Char) : dropPad (text ++ ['=']) = text := by
  simp [dropPad]

/-- The padding is dropped again. -/
lemma dropPad_dropPad {text : List Char} (h : '=' ∉ text) {k : ℕ} (hk : k ≤ 2) :
    dropPad (dropPad (text ++ List.replicate k '=')) = text := by
  interval_cases k
  · rw [List.replicate_zero, List.append_nil, dropPad_of_not_mem h, dropPad_of_not_mem h]
  · rw [List.replicate_one, dropPad_concat, dropPad_of_not_mem h]
  · have htwo : text ++ List.replicate 2 '=' = text ++ ['='] ++ ['='] := by simp [List.replicate]
    rw [htwo, dropPad_concat, dropPad_concat]

lemma not_any_of_mem {text : List Char} (h : ∀ c ∈ text, c ∈ base64Chars) :
    text.any (fun c => !base64Chars.contains c) = false := by
  rw [List.any_eq_false]
  intro c hc
  simp [h c hc]

/-- **`atob` reads what `btoa` writes.** -/
theorem atob_btoa (bytes : List UInt8) : atob (btoa bytes) = some bytes := by
  obtain ⟨k, hk, htext, hlength⟩ := btoa_eq bytes
  have hpad : '=' ∉ unpadded bytes := fun h => eq_not_mem (mem_unpadded bytes _ h)
  have hfull : (btoa bytes).length % 4 = 0 := by
    rw [htext, List.length_append, List.length_replicate]
    exact hlength
  simp only [atob, hfull, if_true]
  rw [htext, dropPad_dropPad hpad hk, not_any_of_mem (mem_unpadded bytes), decodeGroups_unpadded]
  exact if_neg (by simp; omega)

/-- Reading does not need the padding. -/
lemma atob_unpadded (bytes : List UInt8) : atob (unpadded bytes) = some bytes := by
  obtain ⟨k, hk, -, hlength⟩ := btoa_eq bytes
  have hpad : '=' ∉ unpadded bytes := fun h => eq_not_mem (mem_unpadded bytes _ h)
  simp only [atob, dropPad_of_not_mem hpad, ite_self]
  rw [not_any_of_mem (mem_unpadded bytes), decodeGroups_unpadded]
  exact if_neg (by simp; omega)

lemma plainChar_urlChar {c : Char} (h : c ∈ base64Chars) : plainChar (urlChar c) = c := by
  have hall : (base64Chars.all fun c => plainChar (urlChar c) == c) = true := by
    rw [base64Chars_eq]
    decide +kernel
  exact beq_iff_eq.mp (List.all_eq_true.mp hall c h)

lemma urlChar_ne {c : Char} (h : c ∈ base64Chars) : urlChar c ≠ '=' := by
  have hall : (base64Chars.all fun c => urlChar c != '=') = true := by
    rw [base64Chars_eq]
    decide +kernel
  exact bne_iff_ne.mp (List.all_eq_true.mp hall c h)

lemma toBase64Url_eq (bytes : List UInt8) : toBase64Url bytes = (unpadded bytes).map urlChar := by
  obtain ⟨k, -, htext, -⟩ := btoa_eq bytes
  have hpads : (List.replicate k '=').map urlChar = List.replicate k '=' := by
    rw [List.map_replicate]
    rfl
  rw [toBase64Url, htext, List.map_append, hpads, List.rdropWhile, List.reverse_append,
    List.reverse_replicate, List.dropWhile_append_of_pos (fun c hc => by
      rw [List.eq_of_mem_replicate hc]; rfl)]
  rw [List.dropWhile_eq_self_iff.mpr, List.reverse_reverse]
  intro hpos hlast
  have hmem : ((unpadded bytes).map urlChar).reverse[0] ∈ (unpadded bytes).map urlChar :=
    List.mem_reverse.mp (List.getElem_mem hpos)
  obtain ⟨c, hc, heq⟩ := List.mem_map.mp hmem
  exact urlChar_ne (mem_unpadded bytes c hc) (heq.trans (beq_iff_eq.mp hlast))

lemma length_toBase64Url (bytes : List UInt8) :
    (toBase64Url bytes).length = (bytes.length * 4 + 2) / 3 := by
  rw [toBase64Url_eq, List.length_map, length_unpadded]

/-- **What is written for URLs is read back.** -/
theorem fromBase64Url_toBase64Url (bytes : List UInt8) :
    fromBase64Url (toBase64Url bytes) = some bytes := by
  have hplain : ((unpadded bytes).map urlChar).map plainChar = unpadded bytes := by
    rw [List.map_map]
    exact (List.map_congr_left fun c hc => plainChar_urlChar (mem_unpadded bytes c hc)).trans
      (List.map_id _)
  rw [fromBase64Url, toBase64Url_eq, hplain, atob_unpadded]

lemma btoa_injective : Function.Injective btoa := fun bytes bytes' h =>
  Option.some.inj (by rw [← atob_btoa bytes, h, atob_btoa])

lemma toBase64Url_injective : Function.Injective toBase64Url := fun bytes bytes' h =>
  Option.some.inj (by rw [← fromBase64Url_toBase64Url bytes, h, fromBase64Url_toBase64Url])

end Coding
