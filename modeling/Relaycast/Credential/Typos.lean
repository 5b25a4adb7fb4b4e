import Relaycast.Credential.Codec

/-!
# Typos in a credential

A text that differs from a credential in its checksum only has the wrong checksum, since the body
has one.  One that differs in at most four characters in a row before the checksum has a body with
another CRC-32: these are four bytes, and the polynomial has its last coefficient.
-/

namespace CredentialFormat

open Coding

/-! ## The table loop is the division -/

/-- A character as a byte. -/
def byteOf (char : Char) : BitVec 32 := BitVec.ofNat 32 char.toNat

lemma byteOf_toNat (char : Char) : (byteOf char).toNat = char.toNat := by
  have hlt : char.toNat < 2 ^ 32 := char.val.toBitVec.isLt
  rw [byteOf, BitVec.toNat_ofNat, Nat.mod_eq_of_lt hlt]

lemma byteOf_injective : Function.Injective byteOf := by
  intro c c' h
  have hnat := congrArg BitVec.toNat h
  rw [byteOf_toNat, byteOf_toNat] at hnat
  exact Char.toNat_inj.mp hnat

/-- Are the characters bytes? -/
def IsByteText (text : Text) : Prop := ∀ c ∈ text, c.toNat < 256

lemma IsByteText.areBytes {text : Text} (h : IsByteText text) : AreBytes (text.map byteOf) := by
  intro b hb
  obtain ⟨c, hc, rfl⟩ := List.mem_map.mp hb
  rw [byteOf_toNat]
  exact h c hc

/-- The step of the table is the division by the polynomial. -/
lemma crcStep_eq {char : Char} (h : char.toNat < 256) (crc : BitVec 32) :
    crcStep crc char = crcByte CRC_POLYNOMIAL (crc ^^^ byteOf char) := by
  have hbyte : byteOf char >>> 8 = 0#32 := ushiftRight_eight_of_lt (by rwa [byteOf_toNat])
  rw [crcByte_eq_table, BitVec.ushiftRight_xor_distrib, hbyte, BitVec.xor_zero]
  rfl

lemma foldl_crcStep {text : Text} (h : IsByteText text) (crc : BitVec 32) :
    text.foldl crcStep crc = remainder CRC_POLYNOMIAL crc (text.map byteOf) := by
  induction text generalizing crc with
  | nil => rfl
  | cons char text ih =>
    rw [List.foldl_cons, crcStep_eq (h char List.mem_cons_self),
      ih fun c hc => h c (List.mem_cons_of_mem _ hc)]
    rfl

lemma getLsbD_CRC_POLYNOMIAL : CRC_POLYNOMIAL.getLsbD 31 = true := by decide

/-- Texts that differ in at most four characters in a row have different checksums. -/
lemma crc32_ne {before after burst burst' : Text} (h : IsByteText (before ++ burst ++ after))
    (h' : IsByteText (before ++ burst' ++ after)) (hlen : burst.length = burst'.length)
    (hfour : burst.length ≤ 4) (hne : burst ≠ burst') :
    crc32 (before ++ burst ++ after) ≠ crc32 (before ++ burst' ++ after) := by
  intro hcrc
  have hxor := (BitVec.xor_left_inj _).mp (BitVec.eq_of_toNat_eq hcrc)
  rw [foldl_crcStep h, foldl_crcStep h'] at hxor
  simp only [List.map_append] at hxor
  have hbytes : IsByteText burst := fun c hc => h c (by simp [hc])
  have hbytes' : IsByteText burst' := fun c hc => h' c (by simp [hc])
  have hne' : burst.map byteOf ≠ burst'.map byteOf := fun heq =>
    hne (List.map_injective_iff.mpr byteOf_injective heq)
  exact remainder_ne getLsbD_CRC_POLYNOMIAL hbytes.areBytes hbytes'.areBytes (by simpa using hlen)
    (by simpa using hfour) hne' _ _ _ hxor

/-! ## Credentials -/

lemma toNat_lt_of_mem_BASE62 {c : Char} (h : c ∈ BASE62) : c.toNat < 256 := by
  have hall : BASE62.all (fun c => decide (c.toNat < 256)) = true := by
    rw [BASE62_eq]
    decide
  simpa using List.all_eq_true.mp hall c h

/-- The body of a credential is ASCII. -/
lemma ArGroups.WellFormed.isByteText {m : ArGroups} (h : m.WellFormed) : IsByteText m.body := by
  have hlead : IsByteText AR_CREDENTIAL_PREFIX := by
    have hall : AR_CREDENTIAL_PREFIX.all (fun c => decide (c.toNat < 256)) = true := by decide
    exact fun c hc => by simpa using List.all_eq_true.mp hall c hc
  have hkind : IsByteText m.kind := by
    obtain ⟨kind, hkind⟩ := h.kind
    have hall : m.kind.all (fun c => decide (c.toNat < 256)) = true := by
      rw [hkind]
      cases kind <;> decide
    exact fun c hc => by simpa using List.all_eq_true.mp hall c hc
  intro c hc
  simp only [body, List.mem_append, List.mem_singleton] at hc
  rcases hc with ((((((hc | hc) | rfl) | hc) | rfl) | hc) | rfl) | hc
  · exact hlead c hc
  · exact hkind c hc
  · decide
  · exact toNat_lt_of_mem_BASE62 (h.wsid.2 c hc)
  · decide
  · exact toNat_lt_of_mem_BASE62 (h.isText_tag c hc)
  · decide
  · exact toNat_lt_of_mem_BASE62 (h.secret.2 c hc)

lemma crc32_eq_of_arChecksum {body body' checksum : Text} (h : arChecksum body = .ok checksum)
    (h' : arChecksum body' = .ok checksum) : crc32 body = crc32 body' := by
  rw [← (of_base62Encode h).2.2, ← (of_base62Encode h').2.2]

/-- The texts have the same characters but for those from `start` on, `len` of them. -/
def AgreeOutside (start len : ℕ) (text text' : Text) : Prop :=
  ∀ i, i < start ∨ start + len ≤ i → text[i]? = text'[i]?

/-- The texts have the same characters before `stop`. -/
def AgreeBefore (stop : ℕ) (text text' : Text) : Prop := ∀ i < stop, text[i]? = text'[i]?

lemma take_eq_of_agree {stop : ℕ} {text text' : Text} (h : AgreeBefore stop text text') :
    text.take stop = text'.take stop := by
  refine List.ext_getElem? fun i => ?_
  rw [List.getElem?_take, List.getElem?_take]
  split
  · exact h i ‹_›
  · rfl

lemma drop_eq_of_agree {start len : ℕ} {text text' : Text} (h : AgreeOutside start len text text') :
    text.drop (start + len) = text'.drop (start + len) := by
  refine List.ext_getElem? fun i => ?_
  rw [List.getElem?_drop, List.getElem?_drop]
  exact h _ (.inr (by omega))

/-- A text, cut around some of its characters. -/
lemma eq_cut (start len : ℕ) (text : Text) :
    text = text.take start ++ (text.drop start).take len ++ text.drop (start + len) := by
  rw [← List.drop_drop, List.append_assoc, List.take_append_drop, List.take_append_drop]

/-- A typo of a credential: in at most four characters in a row before its checksum, or in the
checksum. -/
def IsTypo (c c' : Text) : Prop :=
  c'.length = c.length ∧ c' ≠ c ∧
    ((∃ start len, len ≤ 4 ∧ start + len + AR_CHECKSUM_LENGTH ≤ c.length ∧
        AgreeOutside start len c c') ∨
      AgreeBefore (c.length - AR_CHECKSUM_LENGTH) c c')

variable {m m' : ArGroups}

lemma take_text (h : m.WellFormed) : m.text.take 73 = m.body := List.take_left' h.length_body

lemma drop_text (h : m.WellFormed) : m.text.drop 73 = m.crc := List.drop_left' h.length_body

/-- A typo in the checksum leaves the body with another one. -/
lemma not_checksum_of_agreeBefore (h : m.WellFormed) (h' : m'.WellFormed)
    (hagree : AgreeBefore 73 m.text m'.text) (hne : m'.text ≠ m.text)
    (hcrc : arChecksum m.body = .ok m.crc) : arChecksum m'.body ≠ .ok m'.crc := by
  intro hcrc'
  have hbody := take_eq_of_agree hagree
  rw [take_text h, take_text h'] at hbody
  have hsame : m.crc = m'.crc := Except.ok.inj (hcrc.symm.trans (hbody ▸ hcrc'))
  exact hne (by rw [ArGroups.text, ArGroups.text, hbody, hsame])

/-- A typo before the checksum changes it. -/
lemma not_checksum_of_agreeOutside (h : m.WellFormed) (h' : m'.WellFormed) {start len : ℕ}
    (hlen : len ≤ 4) (hbefore : start + len ≤ 73) (hagree : AgreeOutside start len m.text m'.text)
    (hne : m'.text ≠ m.text) (hcrc : arChecksum m.body = .ok m.crc) :
    arChecksum m'.body ≠ .ok m'.crc := by
  intro hcrc'
  have hsame : m.crc = m'.crc := by
    rw [← drop_text h, ← drop_text h']
    have hdrop := drop_eq_of_agree hagree
    have hrest := congrArg (List.drop (73 - (start + len))) hdrop
    rw [List.drop_drop, List.drop_drop] at hrest
    rwa [show start + len + (73 - (start + len)) = 73 by omega] at hrest
  have hbodies : AgreeOutside start len m.body m'.body := by
    intro i hi
    rw [← take_text h, ← take_text h', List.getElem?_take, List.getElem?_take]
    split
    · exact hagree i hi
    · rfl
  have htake : m'.body.take start = m.body.take start :=
    (take_eq_of_agree fun i hi => hbodies i (.inl hi)).symm
  have hdrop : m'.body.drop (start + len) = m.body.drop (start + len) :=
    (drop_eq_of_agree hbodies).symm
  have hburst : (m.body.drop start).take len ≠ (m'.body.drop start).take len := by
    intro heq
    refine hne ?_
    rw [ArGroups.text, ArGroups.text, hsame, eq_cut start len m.body, eq_cut start len m'.body,
      htake, hdrop, heq]
  have hcut := eq_cut start len m.body
  have hcut' := eq_cut start len m'.body
  rw [htake, hdrop] at hcut'
  have hbytes := h.isByteText
  have hbytes' := h'.isByteText
  rw [hcut] at hbytes
  rw [hcut'] at hbytes'
  have hlengths : ((m.body.drop start).take len).length = ((m'.body.drop start).take len).length := by
    simp [h.length_body, h'.length_body]
  refine crc32_ne hbytes hbytes' hlengths ?_ hburst ?_
  · rw [List.length_take]
    omega
  · rw [← hcut, ← hcut']
    exact crc32_eq_of_arChecksum hcrc (hsame ▸ hcrc')

/-- **Typos are detected.** -/
theorem typoDetection {args : CredentialArgs} {c c' : Text} (hc : encodeArCredential args = .ok c)
    (htypo : IsTypo c c') (kind : CredentialKind) (workspaceId tag : Text) (version : Char) :
    parseCredential c' ≠ .ok (some (.ar kind workspaceId tag version)) := by
  intro hparse
  obtain ⟨m, hm, rfl⟩ := encodeArCredential_eq_ok_iff.mp hc
  obtain ⟨m', hwell', rfl, hcrc', -⟩ := of_parseCredential hparse
  obtain ⟨-, hne, hwhere⟩ := htypo
  have hlength := hm.wellFormed.length_text
  rcases hwhere with ⟨start, len, hlen, hbefore, hagree⟩ | hagree
  · rw [hlength, AR_CHECKSUM_LENGTH] at hbefore
    exact not_checksum_of_agreeOutside hm.wellFormed hwell' hlen (by omega) hagree hne hm.crc hcrc'
  · rw [hlength, AR_CHECKSUM_LENGTH] at hagree
    exact not_checksum_of_agreeBefore hm.wellFormed hwell' hagree hne hm.crc hcrc'

/-- A character of the secret, written as another one. -/
theorem typoDetection_secret : encodeArCredential sampleArgs = .ok sample.text ∧
    ∀ kind workspaceId tag version, parseCredential (sample.text.set 40 'x') ≠
      .ok (some (.ar kind workspaceId tag version)) := by
  have htypo : IsTypo sample.text (sample.text.set 40 'x') := by
    refine ⟨by decide, by decide, .inl ⟨40, 1, by decide, by decide, fun i hi => ?_⟩⟩
    rw [List.getElem?_set_ne (by omega)]
  exact ⟨encode_sampleArgs, typoDetection encode_sampleArgs htypo⟩

end CredentialFormat
