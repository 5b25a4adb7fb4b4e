import Relaycast.Credential.Format

/-!
# Credentials are read as they were written

The numbers of a credential fit their widths, since 62¹¹ is more than 2⁶⁴, 62⁴³ more than 2²⁵⁶ and
62⁶ more than 2³².  A text of a fixed width is one number only, so a credential determines what it
was made of, and a workspace has one segment.
-/

namespace CredentialFormat

open Coding Script

/-- The digits of base 62. -/
def base62 : Alphabet := ⟨BASE62, by rw [BASE62_eq]; decide +kernel, by rw [BASE62_eq]; decide⟩

lemma base62_base : base62.base = 62 := by
  simp only [Alphabet.base, base62, BASE62_eq]
  rfl

lemma base62_text_iff {text : Text} : text.all BASE62.contains = true ↔ base62.IsText text := by
  simp [Alphabet.IsText, base62]

/-! ## Numbers -/

lemma getD_BASE62 {d : ℕ} (h : d < 62) :
    BASE62.getD d '0' ∈ base62.chars ∧ base62.digit (BASE62.getD d '0') = d := by
  have hlt : d < base62.chars.length := h.trans_eq base62_base.symm
  have hget : base62.chars.getD d '0' = base62.chars[d] := by
    rw [List.getD_eq_getElem?_getD, List.getElem?_eq_getElem hlt, Option.getD_some]
  change base62.chars.getD d '0' ∈ _ ∧ base62.digit (base62.chars.getD d '0') = d
  rw [hget]
  exact ⟨List.getElem_mem hlt, base62.nodup.idxOf_getElem d hlt⟩

lemma base62Loop_zero (out : Text) : base62Loop 0 out = out := by
  rw [base62Loop, if_pos rfl]

lemma base62Loop_pos {rest : ℕ} (h : rest ≠ 0) (out : Text) :
    base62Loop rest out = base62Loop (rest / 62) (BASE62.getD (rest % 62) '0' :: out) := by
  rw [base62Loop, if_neg h]

/-- What the loop puts before `out`. -/
lemma base62Loop_spec (rest : ℕ) {out : Text} (hout : base62.IsText out) :
    base62.IsText (base62Loop rest out) ∧
      base62.value (base62Loop rest out) = rest * 62 ^ out.length + base62.value out := by
  induction rest using Nat.strong_induction_on generalizing out with
  | _ rest ih =>
    by_cases hrest : rest = 0
    · subst hrest
      rw [base62Loop_zero]
      exact ⟨hout, by simp⟩
    · have hmod : rest % 62 < 62 := Nat.mod_lt _ (by omega)
      obtain ⟨hmem, hdigit⟩ := getD_BASE62 hmod
      have hcons : base62.IsText (BASE62.getD (rest % 62) '0' :: out) := by
        intro c hc
        rcases List.mem_cons.mp hc with rfl | hc
        · exact hmem
        · exact hout c hc
      obtain ⟨htext, hvalue⟩ := ih (rest / 62) (by omega) hcons
      rw [base62Loop_pos hrest]
      refine ⟨htext, ?_⟩
      rw [hvalue, Alphabet.value_cons, hdigit, base62_base, List.length_cons, Nat.pow_succ]
      have hdiv : rest / 62 * 62 + rest % 62 = rest := Nat.div_add_mod' rest 62
      calc rest / 62 * (62 ^ out.length * 62) + (rest % 62 * 62 ^ out.length + base62.value out)
          = (rest / 62 * 62 + rest % 62) * 62 ^ out.length + base62.value out := by ring
        _ = rest * 62 ^ out.length + base62.value out := by rw [hdiv]

/-- A number that fits a width gets no more digits. -/
lemma length_base62Loop {width rest : ℕ} (h : rest < 62 ^ width) (out : Text) :
    (base62Loop rest out).length ≤ out.length + width := by
  induction width generalizing rest out with
  | zero =>
    obtain rfl : rest = 0 := by simpa using h
    rw [base62Loop_zero]
    omega
  | succ width ih =>
    by_cases hrest : rest = 0
    · subst hrest
      rw [base62Loop_zero]
      omega
    · have hdiv : rest / 62 < 62 ^ width := by
        rw [Nat.pow_succ] at h
        exact Nat.div_lt_of_lt_mul (by omega)
      have hlen := ih hdiv (BASE62.getD (rest % 62) '0' :: out)
      rw [base62Loop_pos hrest]
      rw [List.length_cons] at hlen
      omega

/-- What a number is encoded as. -/
lemma of_base62Encode {value width : ℕ} {text : Text} (h : base62Encode value width = .ok text) :
    text.length = width ∧ base62.IsText text ∧ base62.value text = value := by
  have hnil : base62.IsText [] := by simp [Alphabet.IsText]
  obtain ⟨htext, hvalue⟩ := base62Loop_spec value hnil
  simp only [base62Encode] at h
  split at h
  · cases h
  · rename_i hwidth
    obtain rfl := Except.ok.inj h
    refine ⟨?_, fun c hc => ?_, ?_⟩
    · rw [List.length_leftpad]
      omega
    · rcases List.mem_append.mp hc with hc | hc
      · rw [List.eq_of_mem_replicate hc]
        change '0' ∈ BASE62
        rw [BASE62_eq]
        exact List.mem_cons_self
      · exact htext c hc
    · rw [Alphabet.value_leftpad (by decide), hvalue]
      simp

lemma base62Encode_of_lt {value width : ℕ} (h : value < 62 ^ width) :
    ∃ text, base62Encode value width = .ok text := by
  have hlen := length_base62Loop h []
  simp only [base62Encode]
  rw [if_neg (by simpa using hlen)]
  exact ⟨_, rfl⟩

/-- The text of a number in a width. -/
lemma base62Encode_value {text : Text} (h : base62.IsText text) :
    base62Encode (base62.value text) text.length = .ok text := by
  have hlt := Alphabet.value_lt h
  rw [base62_base] at hlt
  obtain ⟨text', htext'⟩ := base62Encode_of_lt hlt
  obtain ⟨hlen, hchars, hvalue⟩ := of_base62Encode htext'
  rw [htext', Alphabet.eq_of_value_eq hlen hchars h hvalue]

lemma base62Decode_of_text {text : Text} (h : base62.IsText text) :
    base62Decode text = .ok (base62.value text) := by
  induction text using List.reverseRecOn with
  | nil => rfl
  | append_singleton text c ih =>
    have hinit := ih fun d hd => h d (List.mem_append_left _ hd)
    have hc : BASE62.contains c = true := by
      simpa [base62] using h c (by simp)
    unfold base62Decode at hinit ⊢
    rw [List.foldlM_append, hinit, Alphabet.value_concat, base62_base]
    simp only [List.foldlM_cons, List.foldlM_nil, hc, if_true]
    rfl

/-! ## Secrets -/

lemma bytesToBigInt_eq (bytes : List UInt8) :
    bytesToBigInt bytes = valueOf 256 (bytes.map UInt8.toNat) := by
  induction bytes using List.reverseRecOn with
  | nil => rfl
  | append_singleton bytes byte ih =>
    have hstep : bytesToBigInt (bytes ++ [byte]) = (bytesToBigInt bytes <<< 8) ||| byte.toNat := by
      simp [bytesToBigInt]
    have hbyte : byte.toNat < 2 ^ 8 := byte.toNat_lt
    rw [hstep, ← Nat.shiftLeft_add_eq_or_of_lt hbyte, Nat.shiftLeft_eq, ih, List.map_append,
      List.map_singleton, valueOf_concat]

lemma toNat_lt_of_mem {bytes : List UInt8} : ∀ d ∈ bytes.map UInt8.toNat, d < 256 := by
  intro d hd
  obtain ⟨byte, -, rfl⟩ := List.mem_map.mp hd
  exact byte.toNat_lt

lemma bytesToBigInt_lt (bytes : List UInt8) : bytesToBigInt bytes < 256 ^ bytes.length := by
  have hlt := valueOf_lt (b := 256) (by omega) (@toNat_lt_of_mem bytes)
  rw [List.length_map] at hlt
  rwa [bytesToBigInt_eq]

lemma bytesToBigInt_injective {bytes bytes' : List UInt8} (hlen : bytes.length = bytes'.length)
    (h : bytesToBigInt bytes = bytesToBigInt bytes') : bytes = bytes' := by
  rw [bytesToBigInt_eq, bytesToBigInt_eq] at h
  have hmap := eq_of_valueOf_eq (by omega) (by simpa using hlen) toNat_lt_of_mem toNat_lt_of_mem h
  exact List.map_injective_iff.mpr (fun _ _ => UInt8.toNat_inj.mp) hmap

/-! ## Workspaces -/

lemma isSnowflakeText_iff {text : Text} :
    isSnowflakeText text = true ↔ IsDecimal text ∧ text.length ≤ 20 := by
  unfold isSnowflakeText
  constructor
  · intro h
    rcases Bool.or_eq_true_iff.mp h with h | h
    · obtain rfl := eq_of_beq h
      have hdigit : ∀ c ∈ ['0'], c.isDigit = true := fun c hc => by
        rw [List.mem_singleton.mp hc]
        rfl
      exact ⟨⟨by simp, hdigit, fun _ => rfl⟩, by decide⟩
    · simp only [Bool.and_eq_true, decide_eq_true_eq] at h
      obtain ⟨⟨hlen, hdigits⟩, hhead⟩ := h
      refine ⟨⟨?_, List.all_eq_true.mp hdigits, fun hzero => ?_⟩, hlen⟩
      · rintro rfl
        simp at hhead
      · simp [hzero] at hhead
  · rintro ⟨h, hlen⟩
    by_cases hzero : text.head? = some '0'
    · simp [h.leading hzero]
    · obtain ⟨c, rest, rfl⟩ := List.exists_cons_of_ne_nil h.nonempty
      have hc : c ≠ '0' := by simpa using hzero
      have hdigits := List.all_eq_true.mpr h.digits
      simp only [hdigits, hlen, decide_true, Bool.true_and, List.head?_cons, Option.any_some]
      simp [hc]

lemma length_toDigits_le {n : ℕ} (h : n ≤ MAX_SNOWFLAKE) : (Nat.toDigits 10 n).length ≤ 20 := by
  rw [Nat.length_toDigits_le_iff (by omega) (by omega)]
  unfold MAX_SNOWFLAKE at h
  omega

/-- What a workspace is encoded as. -/
lemma of_encodeArWorkspaceId {workspaceId wsid : Text}
    (h : encodeArWorkspaceId workspaceId = .ok wsid) :
    wsid.length = 11 ∧ base62.IsText wsid ∧ base62.value wsid ≤ MAX_SNOWFLAKE ∧
      Nat.toDigits 10 (base62.value wsid) = workspaceId := by
  unfold encodeArWorkspaceId at h
  split at h
  · rename_i hid
    obtain ⟨hlen, htext, hvalue⟩ := of_base62Encode h
    have hdecimal := (isSnowflakeText_iff.mp hid.1).1
    rw [hvalue]
    exact ⟨hlen, htext, hid.2, hdecimal.toDigits_numeral⟩
  · cases h

/-- The workspace of a segment is encoded as the segment. -/
lemma encodeArWorkspaceId_value {wsid : Text} (hlen : wsid.length = 11) (htext : base62.IsText wsid)
    (hmax : base62.value wsid ≤ MAX_SNOWFLAKE) :
    encodeArWorkspaceId (Nat.toDigits 10 (base62.value wsid)) = .ok wsid := by
  have hnumeral := numeral_toDigits_ten (base62.value wsid)
  have hid := isSnowflakeText_iff.mpr ⟨isDecimal_toDigits _, length_toDigits_le hmax⟩
  have hencode := base62Encode_value htext
  rw [hlen] at hencode
  rw [encodeArWorkspaceId, hnumeral, if_pos ⟨hid, hmax⟩]
  exact hencode

lemma isArWorkspaceId_iff {workspaceId : Text} :
    isArWorkspaceId workspaceId = true ↔ ∃ wsid, encodeArWorkspaceId workspaceId = .ok wsid := by
  unfold isArWorkspaceId
  cases encodeArWorkspaceId workspaceId <;> simp

/-! ## Texts of credentials -/

lemma drop_take_of_append {pre mid post : Text} {n k : ℕ} (hpre : pre.length = n)
    (hmid : mid.length = k) : ((pre ++ (mid ++ post)).drop n).take k = mid := by
  rw [List.drop_left' hpre, List.take_left' hmid]

namespace ArGroups

variable {m : ArGroups}

/-- What it takes to match. -/
structure WellFormed (m : ArGroups) : Prop where
  kind : ∃ kind : CredentialKind, m.kind = kind.code
  wsid : m.wsid.length = 11 ∧ base62.IsText m.wsid
  tag : isTag m.tag = true
  secret : m.secret.length = 43 ∧ base62.IsText m.secret
  crc : m.crc.length = 6 ∧ base62.IsText m.crc

lemma wellFormed_iff : m.wellFormed = true ↔ m.WellFormed := by
  unfold wellFormed
  simp only [Bool.and_eq_true, base62_text_iff, beq_iff_eq, AR_WORKSPACE_ID_LENGTH,
    AR_SECRET_LENGTH, AR_CHECKSUM_LENGTH]
  constructor
  · rintro ⟨⟨⟨⟨hkind, hwsid⟩, htag⟩, hsecret⟩, hcrc⟩
    obtain ⟨kind, -, hkind⟩ := List.mem_map.mp (List.contains_iff_mem.mp hkind)
    exact ⟨⟨kind, hkind.symm⟩, hwsid, htag, hsecret, hcrc⟩
  · rintro ⟨⟨kind, hkind⟩, hwsid, htag, hsecret, hcrc⟩
    refine ⟨⟨⟨⟨?_, hwsid⟩, htag⟩, hsecret⟩, hcrc⟩
    exact List.contains_iff_mem.mpr (List.mem_map.mpr ⟨kind, kind.mem_all, hkind.symm⟩)

namespace WellFormed

lemma length_kind (h : m.WellFormed) : m.kind.length = 2 := by
  obtain ⟨kind, hkind⟩ := h.kind
  rw [hkind, CredentialKind.length_code]

lemma length_tag (h : m.WellFormed) : m.tag.length = 11 := by
  have htag := h.tag
  simp only [isTag, Bool.and_eq_true, beq_iff_eq, AR_TAG_LENGTH] at htag
  exact htag.1.1

lemma length_body (h : m.WellFormed) : m.body.length = 73 := by
  simp [body, AR_CREDENTIAL_PREFIX, h.length_kind, h.wsid.1, h.length_tag, h.secret.1]

lemma length_text (h : m.WellFormed) : m.text.length = 79 := by
  rw [text, List.length_append, h.length_body, h.crc.1]

lemma isText_tag (h : m.WellFormed) : base62.IsText m.tag := by
  have htag := h.tag
  simp only [isTag, Bool.and_eq_true] at htag
  exact base62_text_iff.mp htag.2

/-- The groups are found where they are. -/
lemma ofText_text (h : m.WellFormed) : ofText m.text = m := by
  have hkind := h.length_kind
  have hwsid := h.wsid.1
  have htag := h.length_tag
  have hsecret := h.secret.1
  have hlead : AR_CREDENTIAL_PREFIX.length = 3 := rfl
  obtain ⟨kind, wsid, tag, secret, crc⟩ := m
  simp only at hkind hwsid htag hsecret
  unfold ofText text body
  simp only [ArGroups.mk.injEq]
  refine ⟨?_, ?_, ?_, ?_, ?_⟩
  · simp only [List.append_assoc]
    exact drop_take_of_append hlead hkind
  · have hpre : (AR_CREDENTIAL_PREFIX ++ kind ++ ['_']).length = 6 := by simp [hlead, hkind]
    have hgroup := @drop_take_of_append _ _ (['_'] ++ tag ++ ['_'] ++ secret ++ crc) _ _ hpre hwsid
    simpa only [List.append_assoc] using hgroup
  · have hpre : (AR_CREDENTIAL_PREFIX ++ kind ++ ['_'] ++ wsid ++ ['_']).length = 18 := by
      simp [hlead, hkind, hwsid]
    have hgroup := @drop_take_of_append _ _ (['_'] ++ secret ++ crc) _ _ hpre htag
    simpa only [List.append_assoc] using hgroup
  · have hpre : (AR_CREDENTIAL_PREFIX ++ kind ++ ['_'] ++ wsid ++ ['_'] ++ tag ++ ['_']).length =
        30 := by
      simp [hlead, hkind, hwsid, htag]
    have hgroup := @drop_take_of_append _ _ crc _ _ hpre hsecret
    simpa only [List.append_assoc] using hgroup
  · refine List.drop_left' ?_
    simp [hlead, hkind, hwsid, htag, hsecret]

end WellFormed

end ArGroups

/-- What the format matches. -/
lemma AR_eq_some_iff {token : Text} {m : ArGroups} :
    AR token = some m ↔ m.WellFormed ∧ m.text = token := by
  simp only [AR]
  constructor
  · intro h
    split at h
    · rename_i hmatch
      obtain rfl := Option.some.inj h
      exact ⟨ArGroups.wellFormed_iff.mp hmatch.1, hmatch.2⟩
    · cases h
  · rintro ⟨hwell, rfl⟩
    rw [hwell.ofText_text, if_pos ⟨ArGroups.wellFormed_iff.mpr hwell, rfl⟩]

lemma take_body {m : ArGroups} (h : m.WellFormed) :
    m.text.take (m.text.length - AR_CHECKSUM_LENGTH) = m.body := by
  refine List.take_left' ?_
  rw [ArGroups.text, List.length_append, h.crc.1, AR_CHECKSUM_LENGTH]
  omega

lemma ok_bind {ε α β : Type} (a : α) (f : α → Except ε β) : (Except.ok a >>= f) = f a := rfl

lemma crc32_lt (text : Text) : crc32 text < 62 ^ 6 := by
  have hlt : crc32 text < 2 ^ 32 := BitVec.isLt _
  omega

lemma arChecksum_ok (body : Text) : ∃ checksum, arChecksum body = .ok checksum :=
  base62Encode_of_lt (crc32_lt body)

/-- What a text that matches is read as. -/
lemma parseCredential_text {m : ArGroups} (h : m.WellFormed) (kind : CredentialKind)
    (hkind : m.kind = kind.code) :
    parseCredential m.text = .ok (if arChecksum m.body = .ok m.crc ∧
        base62.value m.wsid ≤ MAX_SNOWFLAKE then
      some (.ar kind (Nat.toDigits 10 (base62.value m.wsid)) m.tag (m.tag.headD '0'))
      else none) := by
  obtain ⟨checksum, hchecksum⟩ := arChecksum_ok m.body
  rw [parseCredential, AR_eq_some_iff.mpr ⟨h, rfl⟩]
  simp only [take_body h, hchecksum, base62Decode_of_text h.wsid.2, hkind,
    CredentialKind.byCode_code, Except.ok.injEq, ok_bind]
  by_cases heq : checksum = m.crc
  · by_cases hmax : MAX_SNOWFLAKE < base62.value m.wsid
    · have hnot := Nat.not_le.mpr hmax
      simp [heq, hmax, hnot, pure, Except.pure]
    · have hle := Nat.not_lt.mp hmax
      simp [heq, hmax, hle, pure, Except.pure]
  · simp [heq, pure, Except.pure]

/-- The groups of a credential. -/
structure Encodes (args : CredentialArgs) (m : ArGroups) : Prop where
  wellFormed : m.WellFormed
  kind : m.kind = args.kind.code
  wsid : encodeArWorkspaceId args.workspaceId = .ok m.wsid
  tag : m.tag = args.tag
  secret : base62Encode (bytesToBigInt args.secret) AR_SECRET_LENGTH = .ok m.secret
  length_secret : args.secret.length = AR_SECRET_BYTES
  crc : arChecksum m.body = .ok m.crc

/-- What a credential is. -/
lemma encodeArCredential_eq_ok_iff {args : CredentialArgs} {c : Text} :
    encodeArCredential args = .ok c ↔ ∃ m, Encodes args m ∧ m.text = c := by
  constructor
  · intro h
    unfold encodeArCredential at h
    split at h
    · cases h
    · rename_i htag
      split at h
      · cases h
      · rename_i hlen
        cases hwsid : encodeArWorkspaceId args.workspaceId with
        | error e =>
          rw [hwsid] at h
          cases h
        | ok wsid =>
          cases hsecret : base62Encode (bytesToBigInt args.secret) AR_SECRET_LENGTH with
          | error e =>
            rw [hwsid, hsecret] at h
            cases h
          | ok secret =>
            obtain ⟨crc, hcrc⟩ := arChecksum_ok
              (ArGroups.mk args.kind.code wsid args.tag secret []).body
            have hcrc' : arChecksum (AR_CREDENTIAL_PREFIX ++ args.kind.code ++ ['_'] ++ wsid ++
                ['_'] ++ args.tag ++ ['_'] ++ secret) = .ok crc := hcrc
            rw [hwsid, hsecret] at h
            simp only [ok_bind, hcrc'] at h
            obtain ⟨hwsid₁, hwsid₂, -⟩ := of_encodeArWorkspaceId hwsid
            obtain ⟨hsecret₁, hsecret₂, -⟩ := of_base62Encode hsecret
            obtain ⟨hcrc₁, hcrc₂, -⟩ := of_base62Encode hcrc
            exact ⟨⟨args.kind.code, wsid, args.tag, secret, crc⟩,
              ⟨⟨⟨args.kind, rfl⟩, ⟨hwsid₁, hwsid₂⟩, by simpa using htag, ⟨hsecret₁, hsecret₂⟩,
                ⟨hcrc₁, hcrc₂⟩⟩, rfl, hwsid, rfl, hsecret, not_not.mp hlen, hcrc⟩,
              Except.ok.inj h⟩
  · rintro ⟨m, hm, rfl⟩
    have htag : isTag args.tag = true := hm.tag ▸ hm.wellFormed.tag
    have hcrc : arChecksum (AR_CREDENTIAL_PREFIX ++ args.kind.code ++ ['_'] ++ m.wsid ++
        ['_'] ++ args.tag ++ ['_'] ++ m.secret) = .ok m.crc := by
      rw [← hm.kind, ← hm.tag]
      exact hm.crc
    unfold encodeArCredential
    rw [htag, hm.wsid, hm.secret]
    simp only [Bool.not_true, Bool.false_eq_true, if_false, hm.length_secret, ne_eq,
      not_true_eq_false, ok_bind, hcrc]
    rw [ArGroups.text, ArGroups.body, hm.kind, hm.tag]
    rfl

lemma Encodes.parse {args : CredentialArgs} {m : ArGroups} (h : Encodes args m) :
    parseCredential m.text =
      .ok (some (.ar args.kind args.workspaceId args.tag (args.tag.headD '0'))) := by
  obtain ⟨-, -, hmax, hid⟩ := of_encodeArWorkspaceId h.wsid
  rw [parseCredential_text h.wellFormed args.kind h.kind, if_pos ⟨h.crc, hmax⟩, hid, h.tag]

/-- One credential for each of its arguments. -/
lemma Encodes.injective {args args' : CredentialArgs} {m : ArGroups} (h : Encodes args m)
    (h' : Encodes args' m) : args = args' := by
  have hparse := h.parse.symm.trans h'.parse
  simp only [Except.ok.injEq, Option.some.injEq, ParsedCredential.ar.injEq] at hparse
  obtain ⟨hkind, hid, htag, -⟩ := hparse
  obtain ⟨-, -, hsecret⟩ := of_base62Encode h.secret
  obtain ⟨-, -, hsecret'⟩ := of_base62Encode h'.secret
  have hbytes := bytesToBigInt_injective (h.length_secret.trans h'.length_secret.symm)
    (hsecret.symm.trans hsecret')
  obtain ⟨kind, workspaceId, tag, secret⟩ := args
  obtain ⟨kind', workspaceId', tag', secret'⟩ := args'
  simp only at hkind hid htag hbytes
  rw [hkind, hid, htag, hbytes]

/-! ## The codec -/

/-- Well-formed arguments are encoded. -/
lemma exists_encodes {args : CredentialArgs} (hid : isArWorkspaceId args.workspaceId = true)
    (htag : isTag args.tag = true) (hsecret : args.secret.length = AR_SECRET_BYTES) :
    ∃ m, Encodes args m := by
  obtain ⟨wsid, hwsid⟩ := isArWorkspaceId_iff.mp hid
  have hlt : bytesToBigInt args.secret < 62 ^ AR_SECRET_LENGTH := by
    have hbytes := bytesToBigInt_lt args.secret
    rw [hsecret] at hbytes
    exact Nat.lt_trans hbytes (by decide)
  obtain ⟨secret, hencoded⟩ := base62Encode_of_lt hlt
  obtain ⟨crc, hcrc⟩ := arChecksum_ok (ArGroups.mk args.kind.code wsid args.tag secret []).body
  obtain ⟨hwsid₁, hwsid₂, -⟩ := of_encodeArWorkspaceId hwsid
  obtain ⟨hsecret₁, hsecret₂, -⟩ := of_base62Encode hencoded
  obtain ⟨hcrc₁, hcrc₂, -⟩ := of_base62Encode hcrc
  exact ⟨⟨args.kind.code, wsid, args.tag, secret, crc⟩,
    ⟨⟨args.kind, rfl⟩, ⟨hwsid₁, hwsid₂⟩, htag, ⟨hsecret₁, hsecret₂⟩, ⟨hcrc₁, hcrc₂⟩⟩, rfl, hwsid,
    rfl, hencoded, hsecret, hcrc⟩

/-- What is read as a credential of the `ar` family. -/
lemma of_parseCredential {token workspaceId tag : Text} {kind : CredentialKind} {version : Char}
    (h : parseCredential token = .ok (some (.ar kind workspaceId tag version))) :
    ∃ m : ArGroups, m.WellFormed ∧ m.text = token ∧ arChecksum m.body = .ok m.crc ∧
      base62.value m.wsid ≤ MAX_SNOWFLAKE ∧
      workspaceId = Nat.toDigits 10 (base62.value m.wsid) := by
  cases har : AR token with
  | none =>
    rw [parseCredential, har] at h
    simp at h
  | some m =>
    obtain ⟨hwell, htext⟩ := AR_eq_some_iff.mp har
    obtain ⟨kind', hkind⟩ := hwell.kind
    rw [← htext, parseCredential_text hwell kind' hkind] at h
    by_cases hboth : arChecksum m.body = .ok m.crc ∧ base62.value m.wsid ≤ MAX_SNOWFLAKE
    · rw [if_pos hboth] at h
      simp only [Except.ok.injEq, Option.some.injEq, ParsedCredential.ar.injEq] at h
      exact ⟨m, hwell, htext, hboth.1, hboth.2, h.2.1.symm⟩
    · rw [if_neg hboth] at h
      simp at h

/-- The workspace segment of a text. -/
def segment (token : Text) : Text := (token.drop 6).take 11

/-- A credential is read as it was written. -/
structure Codec : Prop where
  decodes : ∀ args : CredentialArgs, isArWorkspaceId args.workspaceId = true →
    isTag args.tag = true → args.secret.length = AR_SECRET_BYTES →
      ∃ c version, args.tag.head? = some version ∧ encodeArCredential args = .ok c ∧
        parseCredential c = .ok (some (.ar args.kind args.workspaceId args.tag version))
  injective : ∀ args args' c, encodeArCredential args = .ok c →
    encodeArCredential args' = .ok c → args = args'
  canonical : ∀ token kind workspaceId tag version,
    parseCredential token = .ok (some (.ar kind workspaceId tag version)) →
      (segment token).length = 11 ∧ encodeArWorkspaceId workspaceId = .ok (segment token)
  oneSegment : ∀ token token' kind kind' workspaceId tag tag' version version',
    parseCredential token = .ok (some (.ar kind workspaceId tag version)) →
    parseCredential token' = .ok (some (.ar kind' workspaceId tag' version')) →
      segment token = segment token'

lemma segment_text {m : ArGroups} (h : m.WellFormed) : segment m.text = m.wsid :=
  congrArg ArGroups.wsid h.ofText_text

lemma encode_of_parse {token workspaceId tag : Text} {kind : CredentialKind} {version : Char}
    (h : parseCredential token = .ok (some (.ar kind workspaceId tag version))) :
    (segment token).length = 11 ∧ encodeArWorkspaceId workspaceId = .ok (segment token) := by
  obtain ⟨m, hwell, rfl, -, hmax, rfl⟩ := of_parseCredential h
  rw [segment_text hwell]
  exact ⟨hwell.wsid.1, encodeArWorkspaceId_value hwell.wsid.1 hwell.wsid.2 hmax⟩

/-- **Credentials of every kind, of every workspace, with any tag and secret.** -/
theorem credentialCodec : Codec where
  decodes args hid htag hsecret := by
    obtain ⟨m, hm⟩ := exists_encodes hid htag hsecret
    obtain ⟨version, hversion⟩ : ∃ version, args.tag.head? = some version := by
      cases hhead : args.tag.head? with
      | some version => exact ⟨version, rfl⟩
      | none => simp [isTag, hhead] at htag
    refine ⟨m.text, version, hversion, encodeArCredential_eq_ok_iff.mpr ⟨m, hm, rfl⟩, ?_⟩
    rw [hm.parse, List.headD_eq_head?_getD, hversion]
    rfl
  injective args args' c h h' := by
    obtain ⟨m, hm, hc⟩ := encodeArCredential_eq_ok_iff.mp h
    obtain ⟨m', hm', hc'⟩ := encodeArCredential_eq_ok_iff.mp h'
    have hsame : m = m' := by
      rw [← hm.wellFormed.ofText_text, ← hm'.wellFormed.ofText_text, hc, hc']
    exact hm.injective (hsame ▸ hm')
  canonical token kind workspaceId tag version h := encode_of_parse h
  oneSegment token token' kind kind' workspaceId tag tag' version version' h h' :=
    Except.ok.inj ((encode_of_parse h).2.symm.trans (encode_of_parse h').2)

/-! ## One credential -/

def sampleArgs : CredentialArgs where
  kind := .agent
  workspaceId := "12".toList
  tag := "a000000000Z".toList
  secret := List.replicate 32 7

/-- The groups of `sampleArgs`. -/
def sample : ArGroups where
  kind := "ag".toList
  wsid := "0000000000C".toList
  tag := "a000000000Z".toList
  secret := "1fJjkkpe9PiTw9KSulA8Ghct30vZz4HpdQ5c5b9cPF1".toList
  crc := "3TSiEr".toList

/-- A text of a width, as the encoding of a number. -/
lemma base62Encode_of_value {text : Text} {value width : ℕ} (htext : text.all BASE62.contains = true)
    (hlen : text.length = width) (hvalue : base62.value text = value) :
    base62Encode value width = .ok text := by
  rw [← hlen, ← hvalue]
  exact base62Encode_value (base62_text_iff.mp htext)

lemma value_base62 (text : Text) :
    base62.value text = valueOf 62 (text.map fun c => BASE62.idxOf c) := by
  rw [Alphabet.value, base62_base]
  rfl

lemma sample_encodes : Encodes sampleArgs sample where
  wellFormed := ArGroups.wellFormed_iff.mp (by
    rw [ArGroups.wellFormed, isTag, BASE62_eq]
    decide +kernel)
  kind := rfl
  wsid := by
    rw [encodeArWorkspaceId, if_pos (by decide +kernel)]
    exact base62Encode_of_value (by rw [BASE62_eq]; decide +kernel) (by decide +kernel)
      (by rw [value_base62, BASE62_eq]; decide +kernel)
  tag := rfl
  secret := base62Encode_of_value (by rw [BASE62_eq]; decide +kernel) (by decide +kernel)
    (by rw [value_base62, BASE62_eq]; decide +kernel)
  length_secret := by decide
  crc := base62Encode_of_value (by rw [BASE62_eq]; decide +kernel) (by decide +kernel)
    (by rw [value_base62, BASE62_eq]; decide +kernel)

lemma encode_sampleArgs : encodeArCredential sampleArgs = .ok sample.text :=
  encodeArCredential_eq_ok_iff.mpr ⟨sample, sample_encodes, rfl⟩

end CredentialFormat
