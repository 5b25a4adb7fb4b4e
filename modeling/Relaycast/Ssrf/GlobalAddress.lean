import Mathlib.Tactic.NormNum
import Relaycast.Ssrf.Ipv6Text

/-!
# Which addresses may be connected to

`isGlobalIpAddress` refuses the addresses of special blocks.  An IPv6 address that embeds an IPv4
address is judged as that address, whatever its text: `addressClassification`.

An exception inside 192.0.0.0/24 is recognised by its text, so a dotted quad of it with leading
zeros is refused.  No text is accepted of an address that is not.
-/

namespace Ssrf

open Script

/-! ## The code -/

/-- `v4InCidr`. -/
def v4InCidr (value : ℕ) (base : String) (bits : ℕ) : Bool :=
  match parseIpv4 base.toList with
  | none => false
  | some baseValue => value >>> (32 - bits) == baseValue >>> (32 - bits)

/-- A text that `ipv6Base` does not throw on. -/
structure Ipv6Base where
  text : String
  number : ℕ
  parses : parseIpv6 text.toList = some number

/-- `v6InCidr`. -/
def v6InCidr (value : ℕ) (base : Ipv6Base) (bits : ℕ) : Bool :=
  value >>> (128 - bits) == base.number >>> (128 - bits)

/-- `ipv4FromInteger`. -/
def ipv4FromInteger (value : ℕ) : Text :=
  let embedded := value &&& 0xffffffff
  ['.'].intercalate ([embedded >>> 24, (embedded >>> 16) &&& 0xff, (embedded >>> 8) &&& 0xff,
    embedded &&& 0xff].map (Nat.toDigits 10))

/-- `replace(/^\[|\]$/g, '')`. -/
def unbracket (text : Text) : Text :=
  let text := if text.head? = some '[' then text.tail else text
  if text.getLast? = some ']' then text.dropLast else text

/-- What `isGlobalIpAddress` makes of an IPv4 address. -/
def isGlobalIpv4 (normalized : Text) (ipv4 : ℕ) : Bool :=
  let protocolAssignmentException :=
    normalized == "192.0.0.9".toList || normalized == "192.0.0.10".toList
  !(v4InCidr ipv4 "0.0.0.0" 8 || v4InCidr ipv4 "10.0.0.0" 8 || v4InCidr ipv4 "100.64.0.0" 10 ||
    v4InCidr ipv4 "127.0.0.0" 8 || v4InCidr ipv4 "169.254.0.0" 16 ||
    v4InCidr ipv4 "172.16.0.0" 12 ||
    (v4InCidr ipv4 "192.0.0.0" 24 && !protocolAssignmentException) ||
    v4InCidr ipv4 "192.0.2.0" 24 || v4InCidr ipv4 "192.88.99.0" 24 ||
    v4InCidr ipv4 "192.168.0.0" 16 || v4InCidr ipv4 "198.18.0.0" 15 ||
    v4InCidr ipv4 "198.51.100.0" 24 || v4InCidr ipv4 "203.0.113.0" 24 ||
    v4InCidr ipv4 "224.0.0.0" 4 || v4InCidr ipv4 "240.0.0.0" 4)

def mappedBase : Ipv6Base := ⟨"::ffff:0:0", 0xffff * 2 ^ 32, by decide +kernel⟩
def nat64Base : Ipv6Base := ⟨"64:ff9b::", 0x64ff9b * 2 ^ 96, by decide +kernel⟩
def sixToFourBase : Ipv6Base := ⟨"2002::", 0x2002 * 2 ^ 112, by decide +kernel⟩
def globalUnicastBase : Ipv6Base := ⟨"2000::", 0x2000 * 2 ^ 112, by decide +kernel⟩
def protocolAssignmentsBase : Ipv6Base := ⟨"2001::", 0x2001 * 2 ^ 112, by decide +kernel⟩
def documentationBase : Ipv6Base := ⟨"2001:db8::", 0x20010db8 * 2 ^ 96, by decide +kernel⟩
def newDocumentationBase : Ipv6Base := ⟨"3fff::", 0x3fff * 2 ^ 112, by decide +kernel⟩

/-- What `isGlobalIpAddress` makes of an IPv6 address, with itself as its first argument. -/
def isGlobalIpv6 (recurse : Text → Bool) (ipv6 : ℕ) : Bool :=
  if v6InCidr ipv6 mappedBase 96 then recurse (ipv4FromInteger ipv6)
  else if v6InCidr ipv6 nat64Base 96 then recurse (ipv4FromInteger ipv6)
  else if v6InCidr ipv6 sixToFourBase 16 then recurse (ipv4FromInteger (ipv6 >>> 80))
  else v6InCidr ipv6 globalUnicastBase 3 &&
    !(v6InCidr ipv6 protocolAssignmentsBase 23 || v6InCidr ipv6 documentationBase 32 ||
      v6InCidr ipv6 newDocumentationBase 20)

/-- The body of `isGlobalIpAddress`, with itself as its first argument. -/
def classify (recurse : Text → Bool) (address : Text) : Bool :=
  let normalized := unbracket (toLowerCase address)
  match parseIpv4 normalized with
  | some ipv4 => isGlobalIpv4 normalized ipv4
  | none => (parseIpv6 normalized).any (isGlobalIpv6 recurse)

/-- `isGlobalIpAddress`.  It calls itself on dotted quads only, on which it does not do so again
(`isGlobalIpAddress_eq`). -/
def isGlobalIpAddress (address : Text) : Bool := classify (classify fun _ => false) address

/-! ## What is claimed -/

/-- The addresses that share so many leading bits with `base`. -/
def InBlock (width address base bits : ℕ) : Prop :=
  address / 2 ^ (width - bits) = base / 2 ^ (width - bits)

instance (width address base bits : ℕ) : Decidable (InBlock width address base bits) :=
  inferInstanceAs (Decidable (_ = _))

/-- The special blocks of IPv4. -/
def specialBlocks : List (ℕ × ℕ) :=
  [(ofOctets [0, 0, 0, 0], 8), (ofOctets [10, 0, 0, 0], 8), (ofOctets [100, 64, 0, 0], 10),
    (ofOctets [127, 0, 0, 0], 8), (ofOctets [169, 254, 0, 0], 16), (ofOctets [172, 16, 0, 0], 12),
    (ofOctets [192, 0, 0, 0], 24), (ofOctets [192, 0, 2, 0], 24), (ofOctets [192, 88, 99, 0], 24),
    (ofOctets [192, 168, 0, 0], 16), (ofOctets [198, 18, 0, 0], 15),
    (ofOctets [198, 51, 100, 0], 24), (ofOctets [203, 0, 113, 0], 24), (ofOctets [224, 0, 0, 0], 4),
    (ofOctets [240, 0, 0, 0], 4)]

/-- An IPv4 address that may be connected to. -/
def GlobalIpv4 (address : ℕ) : Prop :=
  address = ofOctets [192, 0, 0, 9] ∨ address = ofOctets [192, 0, 0, 10] ∨
    ∀ block ∈ specialBlocks, ¬ InBlock 32 address block.1 block.2

/-- An IPv6 address that may be connected to, unless it embeds an IPv4 address. -/
def GlobalUnicast (address : ℕ) : Prop :=
  InBlock 128 address (0x2000 * 2 ^ 112) 3 ∧ ¬ InBlock 128 address (0x2001 * 2 ^ 112) 23 ∧
    ¬ InBlock 128 address (0x20010db8 * 2 ^ 96) 32 ∧ ¬ InBlock 128 address (0x3fff * 2 ^ 112) 20

/-- The IPv6 addresses that embed an IPv4 address. -/
inductive Embeds (ipv4 : ℕ) : ℕ → Prop
  | mapped : Embeds ipv4 (0xffff * 2 ^ 32 + ipv4)
  | nat64 : Embeds ipv4 (0x64ff9b * 2 ^ 96 + ipv4)
  | sixToFour {rest : ℕ} (hrest : rest < 2 ^ 80) :
      Embeds ipv4 (0x2002 * 2 ^ 112 + ipv4 * 2 ^ 80 + rest)

/-- The dotted quad of an address, without leading zeros. -/
def quadText (address : ℕ) : Text :=
  ['.'].intercalate ([address / 256 ^ 3, address / 256 ^ 2 % 256, address / 256 % 256,
    address % 256].map (Nat.toDigits 10))

/-- How addresses are classified. -/
structure AddressClassification : Prop where
  /-- The text forms are read, and nothing else. -/
  reads : ∀ text address, parseIpv6 text = some address ↔ Ipv6Text text address
  /-- An embedding is judged as the IPv4 address, whatever its text, in brackets or without. -/
  embedded : ∀ ipv4 < 2 ^ 32, ∀ address, Embeds ipv4 address → ∀ text, Ipv6Text text address →
    isGlobalIpAddress text = isGlobalIpAddress (quadText ipv4) ∧
      isGlobalIpAddress ('[' :: text ++ [']']) = isGlobalIpAddress (quadText ipv4)
  /-- What is accepted is an IPv4 address outside the special blocks, an embedding of one, or in the
  global unicast block outside its special ones. -/
  accepts : ∀ text, isGlobalIpAddress text = true →
    (∃ ipv4, DottedQuad (unbracket (toLowerCase text)) ipv4 ∧ GlobalIpv4 ipv4) ∨
    ∃ address, Ipv6Text (unbracket (toLowerCase text)) address ∧
      ((∃ ipv4 < 2 ^ 32, Embeds ipv4 address ∧ GlobalIpv4 ipv4) ∨ GlobalUnicast address)
  /-- An IPv4 address outside the special blocks is accepted. -/
  acceptsQuad : ∀ ipv4 < 2 ^ 32, GlobalIpv4 ipv4 → isGlobalIpAddress (quadText ipv4) = true

/-! ## IPv4 -/

variable {text : Text} {address ipv4 : ℕ}

lemma ofOctets_four (a b c d : ℕ) : ofOctets [a, b, c, d] = ((a * 256 + b) * 256 + c) * 256 + d := by
  simp [ofOctets]

/-- The text of an octet. -/
lemma octet_toDigits {n : ℕ} (h : n < 256) : Octet (Nat.toDigits 10 n) := by
  refine ⟨isOctet_iff.mpr ⟨⟨Nat.length_toDigits_pos, ?_⟩, fun c hc => ?_⟩, ?_⟩
  · exact (Nat.length_toDigits_le_iff (by omega) (by omega)).mpr (by omega)
  · exact Nat.isDigit_of_mem_toDigits (by omega) (by omega) hc
  · rw [numeral_toDigits (by omega) (by omega)]
    omega

lemma dottedQuad_quadText (h : ipv4 < 2 ^ 32) : DottedQuad (quadText ipv4) ipv4 := by
  refine ⟨_, rfl, ?_, rfl, ?_⟩
  · have hoctet : ∀ n ∈ [ipv4 / 256 ^ 3, ipv4 / 256 ^ 2 % 256, ipv4 / 256 % 256, ipv4 % 256],
        n < 256 := by
      simp only [List.forall_mem_cons]
      exact ⟨by omega, by omega, by omega, by omega, by simp⟩
    intro octet ho
    obtain ⟨n, hn, rfl⟩ := List.mem_map.mp ho
    exact octet_toDigits (hoctet n hn)
  · simp only [List.map_cons, List.map_nil, @numeral_toDigits 10 (by omega) (by omega),
      ofOctets_four]
    omega

lemma ipv4FromInteger_eq (value : ℕ) : ipv4FromInteger value = quadText (value % 2 ^ 32) := by
  have hmask : value &&& 0xffffffff = value % 2 ^ 32 := Nat.and_two_pow_sub_one_eq_mod value 32
  have hbyte : ∀ n : ℕ, n &&& 0xff = n % 256 := fun n => Nat.and_two_pow_sub_one_eq_mod n 8
  have hthree : (2 : ℕ) ^ 24 = 256 ^ 3 := by norm_num
  have htwo : (2 : ℕ) ^ 16 = 256 ^ 2 := by norm_num
  have hone : (2 : ℕ) ^ 8 = 256 := by norm_num
  simp only [ipv4FromInteger, quadText, hmask, hbyte, Nat.shiftRight_eq_div_pow, hthree, htwo,
    hone]

/-- What a dotted quad consists of. -/
lemma DottedQuad.mem (h : DottedQuad text ipv4) {c : Char} (hc : c ∈ text) :
    c.toLower = c ∧ c ≠ '[' ∧ c ≠ ']' ∧ c ≠ '%' ∧ c ≠ 'İ' ∧ c ≠ '\u212a' := by
  have hdigit : ∀ d < 10, d.digitChar.toLower = d.digitChar ∧ d.digitChar ≠ '[' ∧
      d.digitChar ≠ ']' ∧ d.digitChar ≠ '%' ∧ d.digitChar ≠ 'İ' ∧ d.digitChar ≠ '\u212a' := by
    decide
  obtain ⟨octets, -, hoctets, rfl, -⟩ := h
  rcases mem_intercalate hc with hdot | ⟨octet, ho, hin⟩
  · obtain rfl := List.mem_singleton.mp hdot
    decide
  · obtain ⟨d, hd, rfl⟩ := exists_digit ((isOctet_iff.mp (hoctets octet ho).shape).2 c hin)
    exact hdigit d hd

lemma unbracket_of_not_mem (hleft : '[' ∉ text) (hright : ']' ∉ text) : unbracket text = text := by
  have hhead : text.head? ≠ some '[' := fun h => hleft (List.mem_of_mem_head? h)
  have hlast : text.getLast? ≠ some ']' := fun h => hright (List.mem_of_getLast? h)
  simp [unbracket, hhead, hlast]

lemma DottedQuad.toLowerCase_eq (h : DottedQuad text ipv4) : toLowerCase text = text := by
  rw [Ssrf.toLowerCase_eq fun c hc => (h.mem hc).2.2.2.2]
  exact (List.map_congr_left fun c hc => (h.mem hc).1).trans (List.map_id text)

lemma DottedQuad.normalized (h : DottedQuad text ipv4) : unbracket (toLowerCase text) = text := by
  rw [h.toLowerCase_eq]
  exact unbracket_of_not_mem (fun hin => (h.mem hin).2.1 rfl) fun hin => (h.mem hin).2.2.1 rfl

lemma isGlobalIpAddress_of_dottedQuad (h : DottedQuad text ipv4) :
    isGlobalIpAddress text = isGlobalIpv4 text ipv4 := by
  simp only [isGlobalIpAddress, classify, h.normalized, parseIpv4_eq_some_iff.mpr h]

/-- A call on an embedded address ends without another. -/
theorem isGlobalIpAddress_eq (text : Text) :
    isGlobalIpAddress text = classify isGlobalIpAddress text := by
  have hquad : ∀ value, classify (fun _ => false) (ipv4FromInteger value) =
      isGlobalIpAddress (ipv4FromInteger value) := by
    intro value
    have hvalue := dottedQuad_quadText (Nat.mod_lt value (Nat.two_pow_pos 32))
    rw [ipv4FromInteger_eq, isGlobalIpAddress_of_dottedQuad hvalue]
    simp only [classify, hvalue.normalized, parseIpv4_eq_some_iff.mpr hvalue]
  have hembedded : isGlobalIpv6 (classify fun _ => false) = isGlobalIpv6 isGlobalIpAddress := by
    funext ipv6
    simp only [isGlobalIpv6, hquad]
  rw [isGlobalIpAddress, classify, classify, hembedded]

/-- The texts of the special blocks, and of the two addresses in them that may be connected to. -/
lemma specialBlocks_texts :
    ((["0.0.0.0", "10.0.0.0", "100.64.0.0", "127.0.0.0", "169.254.0.0", "172.16.0.0", "192.0.0.0",
      "192.0.2.0", "192.88.99.0", "192.168.0.0", "198.18.0.0", "198.51.100.0", "203.0.113.0",
      "224.0.0.0", "240.0.0.0"].map fun base => parseIpv4 base.toList) =
        specialBlocks.map fun block => some block.1) ∧
      (parseIpv4 "192.0.0.9".toList = some (ofOctets [192, 0, 0, 9]) ∧
        parseIpv4 "192.0.0.10".toList = some (ofOctets [192, 0, 0, 10])) ∧
      isGlobalIpv4 (quadText (ofOctets [192, 0, 0, 9])) (ofOctets [192, 0, 0, 9]) = true ∧
      isGlobalIpv4 (quadText (ofOctets [192, 0, 0, 10])) (ofOctets [192, 0, 0, 10]) = true := by
  decide +kernel

lemma isGlobalIpv4_iff : isGlobalIpv4 text ipv4 = true ↔
    (∀ block ∈ specialBlocks, block ≠ (ofOctets [192, 0, 0, 0], 24) →
      ¬ InBlock 32 ipv4 block.1 block.2) ∧
    (InBlock 32 ipv4 (ofOctets [192, 0, 0, 0]) 24 →
      text = "192.0.0.9".toList ∨ text = "192.0.0.10".toList) := by
  have hbases := specialBlocks_texts.1
  have hblock : ∀ base bits, (ipv4 >>> (32 - bits) == base >>> (32 - bits)) =
      decide (InBlock 32 ipv4 base bits) := fun base bits => by
    rw [Nat.shiftRight_eq_div_pow, Nat.shiftRight_eq_div_pow]
    rfl
  simp only [specialBlocks, List.map_cons, List.map_nil, List.cons.injEq, and_true] at hbases
  obtain ⟨h₀, h₁, h₂, h₃, h₄, h₅, h₆, h₇, h₈, h₉, h₁₀, h₁₁, h₁₂, h₁₃, h₁₄⟩ := hbases
  simp only [isGlobalIpv4, v4InCidr, h₀, h₁, h₂, h₃, h₄, h₅, h₆, h₇, h₈, h₉, h₁₀, h₁₁, h₁₂, h₁₃,
    h₁₄, hblock]
  simp only [specialBlocks, List.forall_mem_cons]
  simp only [ofOctets_four]
  simp
  grind

/-- What is accepted as an IPv4 address is one that may be connected to. -/
lemma globalIpv4_of_isGlobalIpv4 (h : DottedQuad text ipv4)
    (hglobal : isGlobalIpv4 text ipv4 = true) : GlobalIpv4 ipv4 := by
  obtain ⟨hothers, hexception⟩ := isGlobalIpv4_iff.mp hglobal
  by_cases hblock : InBlock 32 ipv4 (ofOctets [192, 0, 0, 0]) 24
  · have hparse := parseIpv4_eq_some_iff.mpr h
    obtain ⟨hnine, hten⟩ := specialBlocks_texts.2.1
    rcases hexception hblock with rfl | rfl
    · exact .inl (Option.some.inj (hparse.symm.trans hnine))
    · exact .inr (.inl (Option.some.inj (hparse.symm.trans hten)))
  · refine .inr (.inr fun block hin => ?_)
    by_cases heq : block = (ofOctets [192, 0, 0, 0], 24)
    · rwa [heq]
    · exact hothers block hin heq

lemma isGlobalIpv4_quadText (h : GlobalIpv4 ipv4) : isGlobalIpv4 (quadText ipv4) ipv4 = true := by
  rcases h with rfl | rfl | h
  · exact specialBlocks_texts.2.2.1
  · exact specialBlocks_texts.2.2.2
  · refine isGlobalIpv4_iff.mpr ⟨fun block hin _ => h block hin, fun hblock => ?_⟩
    exact absurd hblock (h _ (by decide : (ofOctets [192, 0, 0, 0], 24) ∈ specialBlocks))

/-! ## Texts of IPv6 addresses -/

/-- Letters in lower case stay as they are. -/
lemma map_toLower_of_form (h : Form text address) : text.map Char.toLower = text := by
  have hdigit : ∀ d < 16, d.digitChar.toLower = d.digitChar := by decide
  refine (List.map_congr_left fun c hc => ?_).trans (List.map_id text)
  rcases mem_form h hc with hc | rfl | rfl
  · obtain ⟨d, hd, rfl⟩ := exists_hexDigit hc
    exact hdigit d hd
  · rfl
  · rfl

lemma Ipv6Text.toLowerCase (h : Ipv6Text text address) :
    Ipv6Text (toLowerCase text) address := by
  obtain ⟨body, htext, hform⟩ := h
  refine ⟨Script.toLowerCase body, ?_, ?_⟩
  · rcases htext with rfl | ⟨zone, rfl⟩
    · exact .inl rfl
    · exact .inr ⟨Script.toLowerCase zone, by simp [Script.toLowerCase, lowerChar]⟩
  · have hform' := form_toLowerCase.mpr hform
    rwa [map_toLower_of_form hform']

/-- What is not in a form, in whichever case, is not in a text of it. -/
lemma not_mem_body {body : Text} (h : Form (body.map Char.toLower) address) {c : Char}
    (hc : ¬ (isHexDigit c.toLower = true ∨ c.toLower = ':' ∨ c.toLower = '.')) : c ∉ body :=
  fun hin => hc (mem_form h (List.mem_map_of_mem hin))

lemma ne_nil_of_form (h : Form text address) : text ≠ [] := by
  rintro rfl
  have hread := parseBody_of_form h
  simp [parseBody, expandTail, matchQuad, isOctet, parseGroups, allGroups, splitOnPair, groupsOf]
    at hread

lemma unbracket_append {c : Char} {rest zone : Text} (hc : c ≠ '[') :
    Ssrf.unbracket (c :: rest ++ '%' :: zone) =
      if zone.getLast? = some ']' then c :: rest ++ '%' :: zone.dropLast
      else c :: rest ++ '%' :: zone := by
  have hhead : (c :: rest ++ '%' :: zone).head? ≠ some '[' := by simpa using hc
  induction zone using List.reverseRecOn with
  | nil =>
    have hlast : (c :: rest ++ ['%']).getLast? = some '%' := List.getLast?_concat
    simp only [Ssrf.unbracket, hhead, if_false, hlast, List.getLast?_nil]
    rfl
  | append_singleton zone d =>
    rw [← List.cons_append, ← List.append_assoc] at hhead ⊢
    simp only [Ssrf.unbracket, hhead, if_false, List.getLast?_concat, List.dropLast_concat]

lemma Ipv6Text.unbracket (h : Ipv6Text text address) : Ipv6Text (unbracket text) address := by
  obtain ⟨body, htext, hform⟩ := h
  have hleft : '[' ∉ body := not_mem_body hform (by decide)
  have hright : ']' ∉ body := not_mem_body hform (by decide)
  rcases htext with rfl | ⟨zone, rfl⟩
  · rw [unbracket_of_not_mem hleft hright]
    exact ⟨text, .inl rfl, hform⟩
  · obtain ⟨c, rest, rfl⟩ : ∃ c rest, body = c :: rest :=
      List.exists_cons_of_ne_nil fun hnil => ne_nil_of_form hform (by simp [hnil])
    have hc : c ≠ '[' := fun hc => hleft (by simp [hc])
    refine ⟨c :: rest, ?_, hform⟩
    rw [unbracket_append hc]
    split
    · exact .inr ⟨zone.dropLast, rfl⟩
    · exact .inr ⟨zone, rfl⟩

/-- A dotted quad is not the text of an IPv6 address. -/
lemma parseIpv6_of_dottedQuad (h : DottedQuad text ipv4) : parseIpv6 text = none := by
  have hlt := h.lt
  have hgroups : ∀ g ∈ [Nat.toDigits 16 (ipv4 / 65536), Nat.toDigits 16 (ipv4 % 65536)],
      isGroup g = true := by
    simp [isGroup_toDigits (n := ipv4 / 65536) (by omega),
      isGroup_toDigits (n := ipv4 % 65536) (by omega)]
  have hexpand := expandTail_of_dottedQuad (.inl rfl) h
  have hjoin : [':'].intercalate [Nat.toDigits 16 (ipv4 / 65536), Nat.toDigits 16 (ipv4 % 65536)] =
      Nat.toDigits 16 (ipv4 / 65536) ++ ':' :: Nat.toDigits 16 (ipv4 % 65536) := by simp
  have htwo : parseGroups (Nat.toDigits 16 (ipv4 / 65536) ++ ':' ::
      Nat.toDigits 16 (ipv4 % 65536)) = none := by
    rw [← hjoin]
    simp only [parseGroups, allGroups, splitOnPair_of_noPair (noPair_groups hgroups),
      groupsOf_intercalate hgroups]
    rfl
  have hzone : '%' ∉ text := fun hin => (h.mem hin).2.2.2.1 rfl
  simp only [List.nil_append] at hexpand
  simp only [parseIpv6, h.toLowerCase_eq, takeWhile_eq hzone (.inl rfl), hexpand, htwo,
    Option.bind_eq_bind, Option.bind_some]

/-- How the text of an IPv6 address is judged, in brackets or without. -/
lemma isGlobalIpAddress_of_ipv6Text (h : Ipv6Text text address) :
    isGlobalIpAddress text = isGlobalIpv6 isGlobalIpAddress address ∧
      isGlobalIpAddress ('[' :: text ++ [']']) = isGlobalIpv6 isGlobalIpAddress address := by
  have hread : ∀ text, Ipv6Text text address → parseIpv4 text = none ∧
      parseIpv6 text = some address := by
    intro text h
    have hparse := parseIpv6_eq_some_iff.mpr h
    refine ⟨Option.eq_none_iff_forall_ne_some.mpr fun ipv4 hipv4 => ?_, hparse⟩
    rw [parseIpv6_of_dottedQuad (parseIpv4_eq_some_iff.mp hipv4)] at hparse
    cases hparse
  have hbracket : unbracket (toLowerCase ('[' :: text ++ [']'])) = toLowerCase text := by
    have hlower : toLowerCase ('[' :: text ++ [']']) = '[' :: toLowerCase text ++ [']'] := by
      simp [toLowerCase, lowerChar]
    rw [hlower]
    simp [unbracket]
  constructor
  · obtain ⟨hipv4, hipv6⟩ := hread _ h.toLowerCase.unbracket
    rw [isGlobalIpAddress_eq, classify]
    simp only [hipv4, hipv6, Option.any_some]
  · obtain ⟨hipv4, hipv6⟩ := hread _ h.toLowerCase
    rw [isGlobalIpAddress_eq, classify]
    simp only [hbracket, hipv4, hipv6, Option.any_some]

/-! ## Embedded addresses -/

lemma v6InCidr_iff {base : Ipv6Base} {bits : ℕ} :
    v6InCidr address base bits = true ↔ InBlock 128 address base.number bits := by
  simp [v6InCidr, InBlock, Nat.shiftRight_eq_div_pow]

lemma not_inBlock {base : Ipv6Base} {bits : ℕ} (h : v6InCidr address base bits = false) :
    ¬ InBlock 128 address base.number bits := by
  rw [← v6InCidr_iff, h]
  simp

/-- The blocks of the addresses that embed another. -/
lemma embedding_iff :
    (v6InCidr address mappedBase 96 = true ↔ address / 2 ^ 32 = 0xffff) ∧
      (v6InCidr address nat64Base 96 = true ↔ address / 2 ^ 32 = 0x64ff9b * 2 ^ 64) ∧
      (v6InCidr address sixToFourBase 16 = true ↔ address / 2 ^ 112 = 0x2002) :=
  ⟨v6InCidr_iff.trans Iff.rfl, v6InCidr_iff.trans Iff.rfl, v6InCidr_iff.trans Iff.rfl⟩

/-- An embedding is judged as the address it embeds. -/
lemma isGlobalIpv6_of_embeds (hlt : ipv4 < 2 ^ 32) (h : Embeds ipv4 address) :
    isGlobalIpv6 isGlobalIpAddress address = isGlobalIpAddress (quadText ipv4) := by
  simp only [isGlobalIpv6, embedding_iff, ipv4FromInteger_eq]
  cases h with
  | mapped =>
    rw [if_pos (by omega)]
    congr 2
    omega
  | nat64 =>
    rw [if_neg (by omega), if_pos (by omega)]
    congr 2
    omega
  | @sixToFour rest hrest =>
    rw [if_neg (by omega), if_neg (by omega), if_pos (by omega), Nat.shiftRight_eq_div_pow]
    congr 2
    omega

/-- An IPv4 address is accepted under its own text only if it may be connected to. -/
lemma globalIpv4_of_quadText (hlt : ipv4 < 2 ^ 32)
    (haccepted : isGlobalIpAddress (quadText ipv4) = true) : GlobalIpv4 ipv4 := by
  have hquad := dottedQuad_quadText hlt
  rw [isGlobalIpAddress_of_dottedQuad hquad] at haccepted
  exact globalIpv4_of_isGlobalIpv4 hquad haccepted

/-- An IPv6 address that is accepted embeds an IPv4 address that may be connected to, or may be
connected to itself. -/
lemma embeds_or_globalUnicast (haccepted : isGlobalIpv6 isGlobalIpAddress address = true) :
    (∃ ipv4 < 2 ^ 32, Embeds ipv4 address ∧ GlobalIpv4 ipv4) ∨ GlobalUnicast address := by
  simp only [isGlobalIpv6, embedding_iff, ipv4FromInteger_eq] at haccepted
  have hlt : ∀ value : ℕ, value % 2 ^ 32 < 2 ^ 32 := fun value =>
    Nat.mod_lt value (Nat.two_pow_pos 32)
  split at haccepted
  · rename_i hblock
    have heq : 0xffff * 2 ^ 32 + address % 2 ^ 32 = address := by omega
    have hembeds : Embeds (address % 2 ^ 32) (0xffff * 2 ^ 32 + address % 2 ^ 32) := .mapped
    rw [heq] at hembeds
    exact .inl ⟨_, hlt _, hembeds, globalIpv4_of_quadText (hlt _) haccepted⟩
  · split at haccepted
    · rename_i hblock
      have heq : 0x64ff9b * 2 ^ 96 + address % 2 ^ 32 = address := by omega
      have hembeds : Embeds (address % 2 ^ 32) (0x64ff9b * 2 ^ 96 + address % 2 ^ 32) := .nat64
      rw [heq] at hembeds
      exact .inl ⟨_, hlt _, hembeds, globalIpv4_of_quadText (hlt _) haccepted⟩
    · split at haccepted
      · rename_i hblock
        rw [Nat.shiftRight_eq_div_pow] at haccepted
        have heq : 0x2002 * 2 ^ 112 + address / 2 ^ 80 % 2 ^ 32 * 2 ^ 80 + address % 2 ^ 80 =
            address := by omega
        have hembeds : Embeds (address / 2 ^ 80 % 2 ^ 32) (0x2002 * 2 ^ 112 +
            address / 2 ^ 80 % 2 ^ 32 * 2 ^ 80 + address % 2 ^ 80) :=
          .sixToFour (Nat.mod_lt _ (Nat.two_pow_pos 80))
        rw [heq] at hembeds
        exact .inl ⟨_, hlt _, hembeds, globalIpv4_of_quadText (hlt _) haccepted⟩
      · refine .inr ?_
        obtain ⟨hglobal, hspecial⟩ := Bool.and_eq_true _ _ |>.mp haccepted
        rw [Bool.not_eq_true', Bool.or_eq_false_iff, Bool.or_eq_false_iff] at hspecial
        obtain ⟨⟨hassignments, hdocumentation⟩, hnew⟩ := hspecial
        exact ⟨v6InCidr_iff.mp hglobal, not_inBlock hassignments, not_inBlock hdocumentation,
          not_inBlock hnew⟩

/-- **How addresses are classified.** -/
theorem addressClassification : AddressClassification where
  reads _ _ := parseIpv6_eq_some_iff
  embedded ipv4 hlt address hembeds text htext := by
    obtain ⟨hplain, hbrackets⟩ := isGlobalIpAddress_of_ipv6Text htext
    have hsame := isGlobalIpv6_of_embeds hlt hembeds
    exact ⟨hplain.trans hsame, hbrackets.trans hsame⟩
  accepts text haccepted := by
    rw [isGlobalIpAddress_eq, classify] at haccepted
    split at haccepted
    · rename_i ipv4 hparse
      have hquad := parseIpv4_eq_some_iff.mp hparse
      exact .inl ⟨ipv4, hquad, globalIpv4_of_isGlobalIpv4 hquad haccepted⟩
    · obtain ⟨address, hparse, haccepted⟩ := Option.any_eq_true _ _ |>.mp haccepted
      exact .inr ⟨address, parseIpv6_eq_some_iff.mp hparse, embeds_or_globalUnicast haccepted⟩
  acceptsQuad ipv4 hlt hglobal := by
    rw [isGlobalIpAddress_of_dottedQuad (dottedQuad_quadText hlt)]
    exact isGlobalIpv4_quadText hglobal

end Ssrf
