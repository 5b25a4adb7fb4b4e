import Relaycast.Script.Segments
import Relaycast.Script.Text

/-!
# Texts of IP addresses

`parseIpv4` and `parseIpv6` read the texts of addresses before a connection is made.
`parseIpv6_eq_some_iff` says which texts of IPv6 addresses are read, and as what: eight groups of up
to four hexadecimal digits, of which `::` may stand for one or more that are zero, and the last two
of which may be written as a dotted quad; and behind that a zone.  Of the letters outside ASCII that
have a letter of ASCII in their lower case none has a digit, so none brings a text in.
-/

namespace Ssrf

open Script

abbrev Text := List Char

/-! ## The code -/

/-- `/^\d{1,3}$/`. -/
def isOctet (text : Text) : Bool :=
  decide (1 ≤ text.length ∧ text.length ≤ 3) && text.all Char.isDigit

/-- The four parts of a text that is as `\d{1,3}(?:\.\d{1,3}){3}` has it. -/
def matchQuad (text : Text) : Option (List Text) :=
  let parts := text.splitOn '.'
  if parts.length = 4 ∧ parts.all isOctet then some parts else none

/-- The number of four octets. -/
def ofOctets (octets : List ℕ) : ℕ := octets.foldl (fun v octet => v * 256 + octet) 0

/-- `parseIpv4`. -/
def parseIpv4 (host : Text) : Option ℕ := do
  let octets := (← matchQuad host).map (numeral 10)
  if octets.any (255 < ·) then none else some (ofOctets octets % 2 ^ 32)

/-- The dotted quad behind the last colon, if there is one, as two groups. -/
def expandTail (host : Text) : Option Text :=
  let ipv4Tail := host.rtakeWhile (· ≠ ':')
  if (matchQuad ipv4Tail).isSome then
    (parseIpv4 ipv4Tail).map fun ipv4 =>
      host.rdrop ipv4Tail.length ++
        (Nat.toDigits 16 ((ipv4 >>> 16) &&& 0xffff) ++ ':' :: Nat.toDigits 16 (ipv4 &&& 0xffff))
  else some host

/-- The groups of one half. -/
def groupsOf (half : Text) : List Text := if half = [] then [] else half.splitOn ':'

/-- The groups, with those that `::` stands for. -/
def allGroups (host : Text) : Option (List Text) :=
  match splitOnPair ':' host with
  | [half] => if (groupsOf half).length ≠ 8 then none else some (groupsOf half)
  | [half, half'] =>
    let left := groupsOf half
    let right := groupsOf half'
    if 8 < left.length + right.length + 1 then none
    else some (left ++ List.replicate (8 - left.length - right.length) ['0'] ++ right)
  | _ => none

/-- `/^[0-9a-f]$/`. -/
def isHexDigit (c : Char) : Bool := c.isDigit || decide ('a' ≤ c ∧ c ≤ 'f')

/-- `/^[0-9a-f]{1,4}$/`. -/
def isGroup (text : Text) : Bool :=
  decide (1 ≤ text.length ∧ text.length ≤ 4) && text.all isHexDigit

/-- The number of the groups of a text without a dotted quad. -/
def parseGroups (host : Text) : Option ℕ := do
  let groups ← allGroups host
  if groups.length ≠ 8 ∨ groups.any (!isGroup ·) then none
  else some (groups.foldl (fun value group => (value <<< 16) ||| numeral 16 group) 0)

/-- `parseIpv6`. -/
def parseIpv6 (input : Text) : Option ℕ := do
  let host := (toLowerCase input).takeWhile (· ≠ '%')
  parseGroups (← expandTail host)

/-! ## Text forms -/

/-- An octet: up to three decimal digits, at most 255. -/
structure Octet (text : Text) : Prop where
  shape : isOctet text = true
  le : numeral 10 text ≤ 255

/-- `text` is a dotted quad of the address. -/
def DottedQuad (text : Text) (address : ℕ) : Prop := ∃ octets : List Text,
  octets.length = 4 ∧ (∀ octet ∈ octets, Octet octet) ∧ text = ['.'].intercalate octets ∧
    address = ofOctets (octets.map (numeral 10))

/-- The number of groups of sixteen bits. -/
def ofGroups (groups : List ℕ) : ℕ := groups.foldl (fun v group => v * 65536 + group) 0

/-- `text`, in lower case, is a form of the address without a zone. -/
inductive Form : Text → ℕ → Prop
  | full {groups : List Text} (hgroups : ∀ g ∈ groups, isGroup g = true)
      (hlength : groups.length = 8) :
      Form ([':'].intercalate groups) (ofGroups (groups.map (numeral 16)))
  /-- `::` stands for one or more groups of zeros. -/
  | compressed {left right : List Text} (hleft : ∀ g ∈ left, isGroup g = true)
      (hright : ∀ g ∈ right, isGroup g = true) (hlength : left.length + right.length ≤ 7) :
      Form ([':'].intercalate left ++ ':' :: ':' :: [':'].intercalate right)
        (ofGroups (left.map (numeral 16) ++ List.replicate (8 - left.length - right.length) 0 ++
          right.map (numeral 16)))
  /-- The last two groups are written as a dotted quad. -/
  | dotted {before high low quad : Text} {address : ℕ} (hbefore : EndsWith ':' before)
      (hhigh : isGroup high = true) (hlow : isGroup low = true)
      (hform : Form (before ++ (high ++ ':' :: low)) address)
      (hquad : DottedQuad quad (numeral 16 high * 65536 + numeral 16 low)) :
      Form (before ++ quad) address

/-- `text` is a form of the address: its letters count in either case, and a zone may follow. -/
def Ipv6Text (text : Text) (address : ℕ) : Prop := ∃ body : Text,
  (text = body ∨ ∃ zone, text = body ++ '%' :: zone) ∧ Form (body.map Char.toLower) address

/-! ## Digits and groups -/

variable {text host : Text}

lemma exists_digit {c : Char} (h : c.isDigit = true) : ∃ d < 10, c = d.digitChar := by
  have hrange : 48 ≤ c.toNat ∧ c.toNat ≤ 57 := by
    simpa [Char.isDigit, UInt32.le_iff_toNat_le] using h
  have hall : ∀ n < 10, Char.ofNat (48 + n) = n.digitChar := by decide
  refine ⟨c.toNat - 48, by omega, ?_⟩
  rw [← hall (c.toNat - 48) (by omega), Nat.add_sub_cancel' hrange.1, Char.ofNat_toNat]

lemma exists_hexDigit {c : Char} (h : isHexDigit c = true) : ∃ d < 16, c = d.digitChar := by
  rcases Bool.or_eq_true _ _ |>.mp h with h | h
  · obtain ⟨d, hd, rfl⟩ := exists_digit h
    exact ⟨d, by omega, rfl⟩
  · have hrange : 97 ≤ c.toNat ∧ c.toNat ≤ 102 := by
      simpa [Char.le_def, UInt32.le_iff_toNat_le] using h
    have hall : ∀ n < 6, Char.ofNat (97 + n) = (n + 10).digitChar := by decide
    refine ⟨c.toNat - 97 + 10, by omega, ?_⟩
    rw [← hall (c.toNat - 97) (by omega), Nat.add_sub_cancel' hrange.1, Char.ofNat_toNat]

lemma isGroup_iff : isGroup text = true ↔
    (1 ≤ text.length ∧ text.length ≤ 4) ∧ ∀ c ∈ text, isHexDigit c = true := by
  simp [isGroup]

lemma ne_nil_of_isGroup (h : isGroup text = true) : text ≠ [] :=
  List.ne_nil_of_length_pos (isGroup_iff.mp h).1.1

/-- What is not a digit is not in a group. -/
lemma not_mem_of_isGroup {c : Char} (hc : ∀ d < 16, d.digitChar ≠ c) (h : isGroup text = true) :
    c ∉ text := fun hin => by
  obtain ⟨d, hd, rfl⟩ := exists_hexDigit ((isGroup_iff.mp h).2 c hin)
  exact hc d hd rfl

lemma colon_not_mem (h : isGroup text = true) : ':' ∉ text := not_mem_of_isGroup (by decide) h

lemma dot_not_mem (h : isGroup text = true) : '.' ∉ text := not_mem_of_isGroup (by decide) h

lemma numeral_lt_of_isGroup (h : isGroup text = true) : numeral 16 text < 65536 := by
  have hlength := (isGroup_iff.mp h).1.2
  have hdigits : ∀ c ∈ text, digitValue c < 16 := by
    intro c hc
    obtain ⟨d, hd, rfl⟩ := exists_hexDigit ((isGroup_iff.mp h).2 c hc)
    rwa [digitValue_digitChar hd]
  exact (numeral_lt hdigits).trans_le (Nat.pow_le_pow_right (by omega) hlength)

lemma isGroup_toDigits {n : ℕ} (h : n < 65536) : isGroup (Nat.toDigits 16 n) = true := by
  refine isGroup_iff.mpr ⟨⟨Nat.length_toDigits_pos, ?_⟩, fun c hc => ?_⟩
  · exact (Nat.length_toDigits_le_iff (by omega) (by omega)).mpr h
  · have hall : ∀ d < 16, isHexDigit d.digitChar = true := by decide
    obtain ⟨d, hd, rfl⟩ := mem_toDigits (by omega) hc
    exact hall d hd

/-! ## Dotted quads -/

lemma isOctet_iff : isOctet text = true ↔
    (1 ≤ text.length ∧ text.length ≤ 3) ∧ ∀ c ∈ text, c.isDigit = true := by
  simp [isOctet]

/-- What is not a digit is not in an octet. -/
lemma not_mem_of_isOctet {c : Char} (hc : ∀ d < 10, d.digitChar ≠ c) (h : isOctet text = true) :
    c ∉ text := fun hin => by
  obtain ⟨d, hd, rfl⟩ := exists_digit ((isOctet_iff.mp h).2 c hin)
  exact hc d hd rfl

lemma matchQuad_eq_some_iff {parts : List Text} : matchQuad text = some parts ↔
    parts.length = 4 ∧ (∀ part ∈ parts, isOctet part = true) ∧
      text = ['.'].intercalate parts := by
  have hiff : matchQuad text = some parts ↔ text.splitOn '.' = parts ∧
      parts.length = 4 ∧ ∀ part ∈ parts, isOctet part = true := by
    unfold matchQuad
    simp only [List.all_eq_true]
    constructor
    · intro h
      split at h
      · rename_i hshape
        obtain rfl := Option.some.inj h
        exact ⟨rfl, hshape⟩
      · cases h
    · rintro ⟨rfl, hshape⟩
      exact if_pos hshape
  rw [hiff]
  constructor
  · rintro ⟨rfl, hlength, hall⟩
    exact ⟨hlength, hall, (List.intercalate_splitOn '.').symm⟩
  · rintro ⟨hlength, hall, rfl⟩
    have hdots : ∀ part ∈ parts, '.' ∉ part := fun part hpart =>
      not_mem_of_isOctet (by decide) (hall part hpart)
    exact ⟨List.splitOn_intercalate '.' hdots (List.ne_nil_of_length_pos (by omega)), hlength, hall⟩

lemma ofOctets_lt {octets : List ℕ} (h : ∀ octet ∈ octets, octet ≤ 255) :
    ofOctets octets < 256 ^ octets.length := by
  induction octets using List.reverseRecOn with
  | nil => simp [ofOctets]
  | append_singleton octets octet ih =>
    have hoctet := h octet (by simp)
    have hinit := ih fun o ho => h o (List.mem_append_left _ ho)
    simp only [ofOctets, List.foldl_append, List.foldl_cons, List.foldl_nil, List.length_append,
      List.length_singleton, Nat.pow_succ] at hinit ⊢
    omega

/-- **`parseIpv4` reads the dotted quads, as the addresses they are of.** -/
theorem parseIpv4_eq_some_iff {address : ℕ} :
    parseIpv4 text = some address ↔ DottedQuad text address := by
  have hlt : ∀ octets : List Text, octets.length = 4 →
      (∀ octet ∈ octets, numeral 10 octet ≤ 255) →
        ofOctets (octets.map (numeral 10)) % 2 ^ 32 = ofOctets (octets.map (numeral 10)) := by
    intro octets hlength hle
    have hbound := @ofOctets_lt (octets.map (numeral 10)) (by simpa using hle)
    rw [List.length_map, hlength] at hbound
    exact Nat.mod_eq_of_lt hbound
  simp only [parseIpv4, Option.bind_eq_bind, Option.bind_eq_some_iff, matchQuad_eq_some_iff]
  constructor
  · rintro ⟨octets, ⟨hlength, hshape, htext⟩, hvalue⟩
    split at hvalue
    · cases hvalue
    · rename_i hle
      have hle' : ∀ octet ∈ octets, numeral 10 octet ≤ 255 := by simpa using hle
      refine ⟨octets, hlength, fun octet ho => ⟨hshape octet ho, hle' octet ho⟩, htext, ?_⟩
      rw [← hlt octets hlength hle']
      exact (Option.some.inj hvalue).symm
  · rintro ⟨octets, hlength, hoctets, htext, rfl⟩
    refine ⟨octets, ⟨hlength, fun octet ho => (hoctets octet ho).shape, htext⟩, ?_⟩
    rw [if_neg (by simpa using fun octet ho => (hoctets octet ho).le),
      hlt octets hlength fun octet ho => (hoctets octet ho).le]

lemma DottedQuad.lt {address : ℕ} (h : DottedQuad text address) : address < 2 ^ 32 := by
  obtain ⟨octets, hlength, hoctets, -, rfl⟩ := h
  have hbound := @ofOctets_lt (octets.map (numeral 10))
    (by simpa using fun octet ho => (hoctets octet ho).le)
  rwa [List.length_map, hlength] at hbound

lemma DottedQuad.colon_not_mem {address : ℕ} (h : DottedQuad text address) : ':' ∉ text := by
  obtain ⟨octets, -, hoctets, rfl, -⟩ := h
  intro hin
  rcases mem_intercalate hin with hdot | ⟨octet, ho, hcolon⟩
  · simp at hdot
  · exact not_mem_of_isOctet (by decide) (hoctets octet ho).shape hcolon

/-! ## Groups -/

/-- The groups of a half make it up. -/
lemma intercalate_groupsOf (half : Text) : [':'].intercalate (groupsOf half) = half := by
  unfold groupsOf
  split
  · rename_i hnil
    simp [hnil]
  · exact List.intercalate_splitOn ':'

lemma groupsOf_intercalate {groups : List Text} (h : ∀ g ∈ groups, isGroup g = true) :
    groupsOf ([':'].intercalate groups) = groups := by
  cases groups with
  | nil => rfl
  | cons g groups =>
    have hnil : [':'].intercalate (g :: groups) ≠ [] := by
      have hg := ne_nil_of_isGroup (h g List.mem_cons_self)
      cases groups <;> simp [hg]
    rw [groupsOf, if_neg hnil]
    exact List.splitOn_intercalate ':' (fun g hg => colon_not_mem (h g hg)) (by simp)

lemma noPair_groups {groups : List Text} (h : ∀ g ∈ groups, isGroup g = true) :
    NoPair ':' ([':'].intercalate groups) :=
  noPair_intercalate fun g hg => ⟨ne_nil_of_isGroup (h g hg), colon_not_mem (h g hg)⟩

/-- The code's number of groups is theirs. -/
lemma foldl_groups {groups : List Text} (h : ∀ g ∈ groups, isGroup g = true) :
    groups.foldl (fun value group => (value <<< 16) ||| numeral 16 group) 0 =
      ofGroups (groups.map (numeral 16)) := by
  induction groups using List.reverseRecOn with
  | nil => rfl
  | append_singleton groups g ih =>
    have hg := numeral_lt_of_isGroup (h g (by simp))
    have hinit := ih fun g hg => h g (List.mem_append_left _ hg)
    have hvalue : ofGroups ((groups ++ [g]).map (numeral 16)) =
        ofGroups (groups.map (numeral 16)) * 65536 + numeral 16 g := by simp [ofGroups]
    rw [List.foldl_append, hinit, hvalue, List.foldl_cons, List.foldl_nil,
      ← Nat.shiftLeft_add_eq_or_of_lt hg, Nat.shiftLeft_eq]

lemma parseGroups_of_allGroups {groups : List Text} (hall : allGroups host = some groups)
    (hlength : groups.length = 8) (h : ∀ g ∈ groups, isGroup g = true) :
    parseGroups host = some (ofGroups (groups.map (numeral 16))) := by
  have hcheck : ¬ (groups.length ≠ 8 ∨ groups.any (!isGroup ·) = true) := by
    simpa [hlength] using h
  simp only [parseGroups, hall, Option.bind_eq_bind, Option.bind_some, if_neg hcheck,
    foldl_groups h]

/-- Eight groups are read. -/
lemma parseGroups_full {groups : List Text} (h : ∀ g ∈ groups, isGroup g = true)
    (hlength : groups.length = 8) :
    parseGroups ([':'].intercalate groups) = some (ofGroups (groups.map (numeral 16))) := by
  refine parseGroups_of_allGroups ?_ hlength h
  simp [allGroups, splitOnPair_of_noPair (noPair_groups h), groupsOf_intercalate h, hlength]

/-- Groups with `::` are read. -/
lemma parseGroups_compressed {left right : List Text} (hleft : ∀ g ∈ left, isGroup g = true)
    (hright : ∀ g ∈ right, isGroup g = true) (hlength : left.length + right.length ≤ 7) :
    parseGroups ([':'].intercalate left ++ ':' :: ':' :: [':'].intercalate right) =
      some (ofGroups (left.map (numeral 16) ++
        List.replicate (8 - left.length - right.length) 0 ++ right.map (numeral 16))) := by
  have hzero : numeral 16 ['0'] = 0 := rfl
  have hgroups : ∀ g ∈ left ++ List.replicate (8 - left.length - right.length) ['0'] ++ right,
      isGroup g = true := by
    intro g hg
    rcases List.mem_append.mp hg with hg | hg
    · rcases List.mem_append.mp hg with hg | hg
      · exact hleft g hg
      · rw [List.eq_of_mem_replicate hg]
        rfl
    · exact hright g hg
  have hall : allGroups ([':'].intercalate left ++ ':' :: ':' :: [':'].intercalate right) =
      some (left ++ List.replicate (8 - left.length - right.length) ['0'] ++ right) := by
    rw [allGroups, splitOnPair_append_pair (noPair_groups hleft),
      splitOnPair_of_noPair (noPair_groups hright)]
    simp only [groupsOf_intercalate hleft, groupsOf_intercalate hright]
    rw [if_neg (by omega)]
  rw [parseGroups_of_allGroups hall (by simp; omega) hgroups]
  simp [hzero]

/-- What is read is of one of the forms without a dotted quad. -/
lemma form_of_parseGroups {address : ℕ} (h : parseGroups host = some address) :
    Form host address := by
  simp only [parseGroups, Option.bind_eq_bind, Option.bind_eq_some_iff] at h
  obtain ⟨groups, hall, hvalue⟩ := h
  split at hvalue
  · cases hvalue
  rename_i hcheck
  obtain ⟨hlength, hgroups⟩ : groups.length = 8 ∧ ∀ g ∈ groups, isGroup g = true := by
    simpa using hcheck
  rw [foldl_groups hgroups] at hvalue
  obtain rfl := Option.some.inj hvalue
  have hjoin := intercalate_splitOnPair ':' host
  unfold allGroups at hall
  split at hall
  · rename_i half hsplit
    rw [hsplit, List.intercalate_singleton] at hjoin
    split at hall
    · cases hall
    · obtain rfl := Option.some.inj hall
      have hform := Form.full hgroups hlength
      rw [intercalate_groupsOf] at hform
      obtain rfl := hjoin
      exact hform
  · rename_i half half' hsplit
    rw [hsplit, List.intercalate_cons_cons, List.intercalate_singleton] at hjoin
    simp only at hall
    split at hall
    · cases hall
    · rename_i hmissing
      obtain rfl := Option.some.inj hall
      have hleft : ∀ g ∈ groupsOf half, isGroup g = true := fun g hg =>
        hgroups g (by simp [hg])
      have hright : ∀ g ∈ groupsOf half', isGroup g = true := fun g hg =>
        hgroups g (by simp [hg])
      have hform := Form.compressed hleft hright (by omega)
      rw [intercalate_groupsOf, intercalate_groupsOf] at hform
      have hzero : numeral 16 ['0'] = 0 := rfl
      simpa [← hjoin, hzero] using hform
  · cases hall

/-! ## The last two groups -/

/-- Two groups at the end of a text are its last ones, whatever they are. -/
lemma allGroups_append {before : Text} (hbefore : EndsWith ':' before) :
    ∃ others : Option (List Text), ∀ high low : Text,
      isGroup high = true → isGroup low = true →
        allGroups (before ++ (high ++ ':' :: low)) = others.map (· ++ [high, low]) := by
  obtain ⟨halves, last, hsplit⟩ : ∃ halves last, splitOnPair ':' before = halves ++ [last] :=
    ⟨_, _, (List.dropLast_append_getLast (splitOnPair_ne_nil before)).symm⟩
  have hlast : EndsWith ':' last := by
    have hjoin := intercalate_splitOnPair ':' before
    rw [hsplit, intercalate_concat] at hjoin
    exact EndsWith.of_append (hjoin ▸ hbefore)
  have hsplit' : ∀ high low, isGroup high = true → isGroup low = true →
      splitOnPair ':' (before ++ (high ++ ':' :: low)) =
        halves ++ [last ++ (high ++ ':' :: low)] := by
    intro high low hhigh hlow
    have hpair : NoPair ':' (high ++ ':' :: low) := by
      simpa using @noPair_groups [high, low] (by simp [hhigh, hlow])
    obtain ⟨c, more, rfl⟩ := List.exists_cons_of_ne_nil (ne_nil_of_isGroup hhigh)
    exact splitOnPair_append hsplit hpair fun hc => colon_not_mem hhigh (by simp [hc])
  have hgroups : ∀ high low, isGroup high = true → isGroup low = true →
      groupsOf (last ++ (high ++ ':' :: low)) =
        (last.splitOn ':').dropLast ++ [high, low] := by
    intro high low hhigh hlow
    rw [groupsOf, if_neg (by simp), splitOn_append hlast, List.splitOn_append_cons_self,
      List.splitOn_eq_singleton (colon_not_mem hhigh),
      List.splitOn_eq_singleton (colon_not_mem hlow)]
    rfl
  -- One half, two, or too many.
  cases halves with
  | nil =>
    refine ⟨if ((last.splitOn ':').dropLast.length + 2) ≠ 8 then none
      else some (last.splitOn ':').dropLast, fun high low hhigh hlow => ?_⟩
    simp only [allGroups, hsplit' high low hhigh hlow, List.nil_append, hgroups high low hhigh hlow,
      List.length_append, List.length_cons, List.length_nil]
    split <;> rfl
  | cons half halves =>
    cases halves with
    | nil =>
      refine ⟨if 8 < (groupsOf half).length + ((last.splitOn ':').dropLast.length + 2) + 1 then none
        else some (groupsOf half ++ List.replicate (8 - (groupsOf half).length -
          ((last.splitOn ':').dropLast.length + 2)) ['0'] ++ (last.splitOn ':').dropLast),
        fun high low hhigh hlow => ?_⟩
      simp only [allGroups, hsplit' high low hhigh hlow, List.cons_append, List.nil_append,
        hgroups high low hhigh hlow, List.length_append, List.length_cons, List.length_nil]
      split
      · rfl
      · simp
    | cons half' halves =>
      refine ⟨none, fun high low hhigh hlow => ?_⟩
      simp only [allGroups, hsplit' high low hhigh hlow, List.cons_append]
      cases halves <;> rfl

/-- Only the numbers of the last two groups count. -/
lemma parseGroups_congr {before high low high' low' : Text} (hbefore : EndsWith ':' before)
    (hhigh : isGroup high = true) (hlow : isGroup low = true) (hhigh' : isGroup high' = true)
    (hlow' : isGroup low' = true) (heqHigh : numeral 16 high = numeral 16 high')
    (heqLow : numeral 16 low = numeral 16 low') :
    parseGroups (before ++ (high ++ ':' :: low)) =
      parseGroups (before ++ (high' ++ ':' :: low')) := by
  obtain ⟨others, hothers⟩ := allGroups_append hbefore
  simp only [parseGroups, hothers high low hhigh hlow, hothers high' low' hhigh' hlow']
  cases others with
  | none => rfl
  | some groups =>
    have hcheck : (groups ++ [high, low]).any (!isGroup ·) =
        (groups ++ [high', low']).any (!isGroup ·) := by
      simp [List.any_append, hhigh, hlow, hhigh', hlow']
    simp only [Option.map_some, Option.bind_eq_bind, Option.bind_some, hcheck, List.length_append,
      List.length_cons, List.foldl_append, List.foldl_cons, List.foldl_nil, heqHigh, heqLow]

/-! ## The tail -/

lemma matchQuad_eq_none (h : '.' ∉ text) : matchQuad text = none := by
  simp [matchQuad, List.splitOn_eq_singleton h]

/-- Without a dot behind the last colon nothing is to be expanded. -/
lemma expandTail_of_not_mem (h : '.' ∉ host.rtakeWhile (· ≠ ':')) :
    expandTail host = some host := by
  simp only [expandTail, matchQuad_eq_none h]
  rfl

lemma expandTail_of_isGroups {before low : Text} (hlow : isGroup low = true) :
    expandTail (before ++ ':' :: low) = some (before ++ ':' :: low) := by
  have hends : EndsWith ':' (before ++ [':']) := .inr ⟨before, rfl⟩
  have htail := rtakeWhile_append hends (colon_not_mem hlow)
  refine expandTail_of_not_mem ?_
  rw [List.append_cons, htail]
  exact dot_not_mem hlow

lemma groups_of_address {address : ℕ} (h : address < 2 ^ 32) :
    (address >>> 16) &&& 0xffff = address / 65536 ∧ address &&& 0xffff = address % 65536 := by
  have hand : ∀ n : ℕ, n &&& 0xffff = n % 65536 := fun n => Nat.and_two_pow_sub_one_eq_mod n 16
  rw [hand, hand, Nat.shiftRight_eq_div_pow]
  exact ⟨Nat.mod_eq_of_lt (by omega), rfl⟩

/-- A dotted quad is written as its two groups. -/
lemma expandTail_of_dottedQuad {before quad : Text} {address : ℕ} (hbefore : EndsWith ':' before)
    (hquad : DottedQuad quad address) :
    expandTail (before ++ quad) = some (before ++
      (Nat.toDigits 16 (address / 65536) ++ ':' :: Nat.toDigits 16 (address % 65536))) := by
  have hparse := parseIpv4_eq_some_iff.mpr hquad
  have hmatch : (matchQuad quad).isSome = true := by
    cases hnone : matchQuad quad with
    | none => simp [parseIpv4, hnone] at hparse
    | some parts => rfl
  obtain ⟨hhigh, hlow⟩ := groups_of_address hquad.lt
  simp only [expandTail, rtakeWhile_append hbefore hquad.colon_not_mem, hmatch, if_true, hparse,
    Option.map_some, List.rdrop_append_length, hhigh, hlow]

/-- `parseIpv6` of a text in lower case without a zone. -/
def parseBody (host : Text) : Option ℕ := (expandTail host).bind parseGroups

lemma dot_not_mem_groups {groups : List Text} (h : ∀ g ∈ groups, isGroup g = true) :
    '.' ∉ [':'].intercalate groups := fun hin => by
  rcases mem_intercalate hin with hcolon | ⟨g, hg, hdot⟩
  · simp at hcolon
  · exact dot_not_mem (h g hg) hdot

/-- Every form is read. -/
lemma parseBody_of_form {address : ℕ} (h : Form host address) :
    parseBody host = some address := by
  induction h with
  | full hgroups hlength =>
    have hdot := dot_not_mem_groups hgroups
    rw [parseBody, expandTail_of_not_mem fun hin => hdot ((List.rtakeWhile_suffix _ _).subset hin)]
    exact parseGroups_full hgroups hlength
  | @compressed left right hleft hright hlength =>
    have hdot : '.' ∉ [':'].intercalate left ++ ':' :: ':' :: [':'].intercalate right := by
      simp [dot_not_mem_groups hleft, dot_not_mem_groups hright]
    rw [parseBody, expandTail_of_not_mem fun hin => hdot ((List.rtakeWhile_suffix _ _).subset hin)]
    exact parseGroups_compressed hleft hright hlength
  | @dotted before high low quad address hbefore hhigh hlow hform hquad ih =>
    have hlt := numeral_lt_of_isGroup hlow
    have hlt' := numeral_lt_of_isGroup hhigh
    have hsame : expandTail (before ++ (high ++ ':' :: low)) =
        some (before ++ (high ++ ':' :: low)) := by
      rw [← List.append_assoc]
      exact expandTail_of_isGroups hlow
    rw [parseBody, hsame, Option.bind_some] at ih
    rw [parseBody, expandTail_of_dottedQuad hbefore hquad, Option.bind_some, ← ih]
    refine parseGroups_congr hbefore (isGroup_toDigits (by omega)) (isGroup_toDigits (by omega))
      hhigh hlow ?_ ?_
    · rw [numeral_toDigits (by omega) (by omega)]
      omega
    · rw [numeral_toDigits (by omega) (by omega)]
      omega

/-- What is read is a form. -/
lemma form_of_parseBody {address : ℕ} (h : parseBody host = some address) :
    Form host address := by
  obtain ⟨host', hexpand, hgroups⟩ := Option.bind_eq_some_iff.mp h
  have hform := form_of_parseGroups hgroups
  unfold expandTail at hexpand
  simp only at hexpand
  split at hexpand
  · obtain ⟨ipv4, hparse, rfl⟩ := Option.map_eq_some_iff.mp hexpand
    have hquad := parseIpv4_eq_some_iff.mp hparse
    have hlt := hquad.lt
    obtain ⟨hhigh, hlow⟩ := groups_of_address hlt
    have hhost := List.rdropWhile_append_rtakeWhile (p := fun c => decide (c ≠ ':')) (l := host)
    have hbefore : host.rdrop (host.rtakeWhile (· ≠ ':')).length = host.rdropWhile (· ≠ ':') :=
      calc host.rdrop (host.rtakeWhile (· ≠ ':')).length
          = (host.rdropWhile (· ≠ ':') ++ host.rtakeWhile (· ≠ ':')).rdrop
              (host.rtakeWhile (· ≠ ':')).length := by rw [hhost]
        _ = host.rdropWhile (· ≠ ':') := List.rdrop_append_length
    rw [hbefore, hhigh, hlow] at hform
    rw [← hhost]
    refine Form.dotted (endsWith_rdropWhile host) (isGroup_toDigits (by omega))
      (isGroup_toDigits (by omega)) hform ?_
    rw [numeral_toDigits (by omega) (by omega), numeral_toDigits (by omega) (by omega),
      Nat.div_add_mod' ipv4 65536]
    exact hquad
  · obtain rfl := Option.some.inj hexpand
    exact hform

/-! ## Letters of either case, and zones -/

/-- What a form consists of. -/
lemma mem_form {address : ℕ} (h : Form text address) {c : Char} (hc : c ∈ text) :
    isHexDigit c = true ∨ c = ':' ∨ c = '.' := by
  have hgroups : ∀ groups : List Text, (∀ g ∈ groups, isGroup g = true) →
      c ∈ [':'].intercalate groups → isHexDigit c = true ∨ c = ':' ∨ c = '.' := by
    intro groups hgroups hin
    rcases mem_intercalate hin with hcolon | ⟨g, hg, hdigit⟩
    · exact .inr (.inl (List.mem_singleton.mp hcolon))
    · exact .inl ((isGroup_iff.mp (hgroups g hg)).2 c hdigit)
  induction h with
  | full h _ => exact hgroups _ h hc
  | compressed hleft hright _ =>
    rcases List.mem_append.mp hc with hc | hc
    · exact hgroups _ hleft hc
    · rcases List.mem_cons.mp hc with rfl | hc
      · exact .inr (.inl rfl)
      · rcases List.mem_cons.mp hc with rfl | hc
        · exact .inr (.inl rfl)
        · exact hgroups _ hright hc
  | dotted hbefore hhigh hlow hform hquad ih =>
    rcases List.mem_append.mp hc with hc | hc
    · exact ih (List.mem_append_left _ hc)
    · obtain ⟨octets, -, hoctets, rfl, -⟩ := hquad
      rcases mem_intercalate hc with hdot | ⟨octet, ho, hdigit⟩
      · exact .inr (.inr (List.mem_singleton.mp hdot))
      · exact .inl (by
          simp [isHexDigit, (isOctet_iff.mp (hoctets octet ho).shape).2 c hdigit])

/-- Nothing below the lower-case letters is the lower case of anything else. -/
lemma toLower_ne {c d : Char} (hd : d.toNat < 97) (hc : c ≠ d) : c.toLower ≠ d := by
  unfold Char.toLower
  split
  · rename_i h
    intro heq
    obtain ⟨hle, hge⟩ : 65 ≤ c.toNat ∧ c.toNat ≤ 90 := by
      simpa [UInt32.le_iff_toNat_le] using h
    have hval := congrArg (fun d => d.val.toNat) heq
    simp only [UInt32.toNat_add] at hval
    change (c.toNat + 32) % 4294967296 = d.toNat at hval
    omega
  · exact hc

lemma lowerChar_eq {c : Char} (h : c ≠ 'İ' ∧ c ≠ '\u212a') : lowerChar c = [c.toLower] := by
  simp [lowerChar, h]

lemma toLowerCase_eq (h : ∀ c ∈ text, c ≠ 'İ' ∧ c ≠ '\u212a') :
    toLowerCase text = text.map Char.toLower := by
  induction text with
  | nil => rfl
  | cons c text ih =>
    obtain ⟨hc, htext⟩ := List.forall_mem_cons.mp h
    have hrest := ih htext
    simp only [toLowerCase] at hrest ⊢
    rw [List.flatMap_cons, lowerChar_eq hc, hrest, List.map_cons, List.singleton_append]

/-- A text is a form in lower case if it is one with the letters of ASCII in lower case. -/
lemma form_toLowerCase {address : ℕ} :
    Form (toLowerCase text) address ↔ Form (text.map Char.toLower) address := by
  constructor
  · intro h
    rw [← toLowerCase_eq fun c hc => ⟨?_, ?_⟩]
    · exact h
    · rintro rfl
      have hin : 'i' ∈ toLowerCase text := List.mem_flatMap.mpr ⟨_, hc, by decide⟩
      exact absurd (mem_form h hin) (by decide)
    · rintro rfl
      have hin : 'k' ∈ toLowerCase text := List.mem_flatMap.mpr ⟨_, hc, by decide⟩
      exact absurd (mem_form h hin) (by decide)
  · intro h
    rw [toLowerCase_eq fun c hc => ⟨?_, ?_⟩]
    · exact h
    · rintro rfl
      exact absurd (mem_form h (List.mem_map_of_mem hc)) (by decide)
    · rintro rfl
      exact absurd (mem_form h (List.mem_map_of_mem hc)) (by decide)

/-- The text before a zone is in lower case what it is without the zone. -/
lemma takeWhile_toLowerCase (text : Text) :
    (toLowerCase text).takeWhile (· ≠ '%') = toLowerCase (text.takeWhile (· ≠ '%')) := by
  induction text with
  | nil => rfl
  | cons c text ih =>
    by_cases hc : c = '%'
    · subst hc
      rfl
    · have hlower : ∀ d ∈ lowerChar c, decide (d ≠ '%') = true := by
        intro d hd
        unfold lowerChar at hd
        split at hd
        · rcases List.mem_cons.mp hd with rfl | hd
          · rfl
          · obtain rfl := List.mem_singleton.mp hd
            rfl
        · split at hd
          · obtain rfl := List.mem_singleton.mp hd
            rfl
          · obtain rfl := List.mem_singleton.mp hd
            simpa using toLower_ne (by decide) hc
      have hsplit : toLowerCase (c :: text) = lowerChar c ++ toLowerCase text := rfl
      rw [hsplit, List.takeWhile_append_of_pos hlower, ih, List.takeWhile_cons_of_pos (by simpa)]
      rfl

/-- What is before the zone. -/
lemma takeWhile_eq {body : Text} (hbody : '%' ∉ body)
    (htext : text = body ∨ ∃ zone, text = body ++ '%' :: zone) :
    text.takeWhile (· ≠ '%') = body := by
  have hall : ∀ c ∈ body, decide (c ≠ '%') = true := fun c hc => by
    simpa using fun (h : c = '%') => hbody (h ▸ hc)
  rcases htext with rfl | ⟨zone, rfl⟩
  · simpa using hall
  · rw [List.takeWhile_append_of_pos hall]
    simp

/-- **`parseIpv6` reads exactly the text forms, as the addresses that they denote.** -/
theorem parseIpv6_eq_some_iff {address : ℕ} :
    parseIpv6 text = some address ↔ Ipv6Text text address := by
  have hparse : parseIpv6 text = some address ↔
      Form ((text.takeWhile (· ≠ '%')).map Char.toLower) address := by
    rw [← form_toLowerCase, ← takeWhile_toLowerCase]
    exact ⟨form_of_parseBody, parseBody_of_form⟩
  rw [hparse]
  constructor
  · intro hform
    have htext := List.takeWhile_append_dropWhile (p := fun c => decide (c ≠ '%')) (l := text)
    refine ⟨text.takeWhile (· ≠ '%'), ?_, hform⟩
    by_cases hnil : text.dropWhile (· ≠ '%') = []
    · rw [hnil, List.append_nil] at htext
      exact .inl htext.symm
    · obtain ⟨c, zone, hrest⟩ := List.exists_cons_of_ne_nil hnil
      have hc := List.head?_dropWhile_not (fun c => decide (c ≠ '%')) text
      simp only [hrest, List.head?_cons] at hc
      obtain rfl : c = '%' := by simpa using hc
      exact .inr ⟨zone, by rw [← hrest, htext]⟩
  · rintro ⟨body, htext, hform⟩
    have hbody : '%' ∉ body := fun hin =>
      absurd (mem_form hform (List.mem_map_of_mem hin)) (by decide)
    rwa [takeWhile_eq hbody htext]

end Ssrf
