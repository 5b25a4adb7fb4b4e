import Relaycast.Coding.Base64
import Relaycast.Coding.Comparison
import Relaycast.Coding.Decimal
import Relaycast.Relational.FullText
import Relaycast.Script.Json
import Relaycast.Script.Text

/-!
# Signatures of webhooks

A request is signed over its identifier, the second of the attempt and its body, under a secret that
is written in base64.  A receiver computes the signature again, and compares it with every candidate
of the header without stopping at the first difference.

It accepts a header exactly if the second is close to its own and one of the candidates is the
signature (`verifyStandardWebhook_iff`); in particular the header that a signature makes
(`verify_sign`).
-/

namespace Webhook

open Script Coding

/-! ## Secrets -/

/-- `/^[A-Za-z0-9+/]*={0,2}$/.test`. -/
def isBase64 (text : List Char) : Bool :=
  let rest := text.dropWhile base64Chars.contains
  decide (rest.length ≤ 2) && rest.all (· == '=')

/-- `decodeBase64`. -/
def decodeBase64 (value : List Char) : Except String (List UInt8) :=
  let normalized := value.filter fun c => !whiteSpace.contains c
  if !isBase64 normalized then .error "Standard Webhooks secret is not valid base64"
  else
    let pad := (normalized.length + 3) / 4 * 4 - normalized.length
    match atob (normalized ++ List.replicate pad '=') with
    | none => .error "Standard Webhooks secret is not valid base64"
    | some decoded => .ok decoded

/-! ## Signing -/

/-- `MIN_SECRET_BYTES`. -/
def MIN_SECRET_BYTES : ℕ := 24

/-- `MAX_SECRET_BYTES`. -/
def MAX_SECRET_BYTES : ℕ := 64

/-- `DEFAULT_TIMESTAMP_TOLERANCE_SECONDS`. -/
def DEFAULT_TIMESTAMP_TOLERANCE_SECONDS : ℤ := 5 * 60

/-- `Number.MAX_SAFE_INTEGER`. -/
def MAX_SAFE_INTEGER : ℤ := 2 ^ 53 - 1

/-- `Number.isSafeInteger`, of an integer. -/
def isSafeInteger (n : ℤ) : Bool := decide (-MAX_SAFE_INTEGER ≤ n ∧ n ≤ MAX_SAFE_INTEGER)

/-- `STANDARD_WEBHOOK_SECRET_PREFIX`. -/
def STANDARD_WEBHOOK_SECRET_PREFIX : List Char := "whsec_".toList

/-- `decodeStandardWebhookSecret`. -/
def decodeStandardWebhookSecret (secretWhsec : String) : Except String (List UInt8) :=
  if !STANDARD_WEBHOOK_SECRET_PREFIX.isPrefixOf secretWhsec.toList then
    .error "Standard Webhooks secret must start with whsec_"
  else
    match decodeBase64 (secretWhsec.toList.drop STANDARD_WEBHOOK_SECRET_PREFIX.length) with
    | .error message => .error message
    | .ok secret =>
      if secret.length < MIN_SECRET_BYTES ∨ MAX_SECRET_BYTES < secret.length then
        .error "Standard Webhooks secret must decode to 24-64 bytes"
      else .ok secret

/-- `isValidStandardWebhookSecret`. -/
def isValidStandardWebhookSecret (secretWhsec : String) : Bool :=
  (decodeStandardWebhookSecret secretWhsec).isOk

/-- HMAC with SHA-256, of the UTF-8 bytes of a text. -/
abbrev Hmac := List UInt8 → String → List UInt8

/-- `/^\d+$/.test`. -/
def isDigits (text : String) : Bool := text.toList ≠ [] && text.toList.all Char.isDigit

/-- What is signed. -/
def signedText (msgId tsSeconds rawBody : String) : String :=
  msgId ++ "." ++ tsSeconds ++ "." ++ rawBody

/-- `signStandardWebhook`. -/
def signStandardWebhook (hmac : Hmac) (secretWhsec msgId tsSeconds rawBody : String) :
    Except String String :=
  if msgId = "" ∨ !isDigits tsSeconds then
    .error "Standard Webhooks signing requires a message id and Unix-seconds timestamp"
  else
    match decodeStandardWebhookSecret secretWhsec with
    | .error message => .error message
    | .ok secret =>
      .ok ("v1," ++ String.ofList (btoa (hmac secret (signedText msgId tsSeconds rawBody))))

/-! ## Verifying -/

/-- What the loop over the candidates makes of one of them. -/
def acceptsCandidate (expected : String) (candidate : List Char) : Bool :=
  "v1,".toList.isPrefixOf candidate &&
    (utf16 (String.ofList candidate)).length == (utf16 expected).length &&
      difference (utf16 expected) (utf16 (String.ofList candidate)) == 0

/-- `signatureHeader.trim().split(/\s+/)`; an empty header has an empty candidate more. -/
def candidates (signatureHeader : String) : List (List Char) :=
  Relational.words whiteSpace.contains signatureHeader.toList

/-- `VerifyStandardWebhookOptions`. -/
structure VerifyOptions where
  nowSeconds : ℤ
  toleranceSeconds : ℤ := DEFAULT_TIMESTAMP_TOLERANCE_SECONDS

/-- Is the timestamp close enough? -/
def isFresh (tsSeconds : String) (options : VerifyOptions) : Bool :=
  let timestamp : ℤ := numeral 10 tsSeconds.toList
  isSafeInteger timestamp && isSafeInteger options.nowSeconds &&
    isSafeInteger options.toleranceSeconds && decide (0 ≤ options.toleranceSeconds) &&
      decide (|options.nowSeconds - timestamp| ≤ options.toleranceSeconds)

/-- `verifyStandardWebhook`. -/
def verifyStandardWebhook (hmac : Hmac)
    (secretWhsec msgId tsSeconds rawBody signatureHeader : String) (options : VerifyOptions) :
    Except String Bool :=
  if !isDigits tsSeconds then .ok false
  else if !isFresh tsSeconds options then .ok false
  else
    match signStandardWebhook hmac secretWhsec msgId tsSeconds rawBody with
    | .error message => .error message
    | .ok expected => .ok ((candidates signatureHeader).any (acceptsCandidate expected))

/-! ## What the comparison finds -/

lemma acceptsCandidate_iff {expected : String} {candidate : List Char}
    (hversion : "v1,".toList.isPrefixOf expected.toList = true) :
    acceptsCandidate expected candidate = true ↔ candidate = expected.toList := by
  simp only [acceptsCandidate, Bool.and_eq_true, beq_iff_eq]
  constructor
  · rintro ⟨⟨-, hlen⟩, hzero⟩
    have heq := utf16_injective ((difference_eq_zero hlen).mp hzero)
    rw [← heq, String.toList_ofList]
  · rintro rfl
    rw [String.ofList_toList]
    exact ⟨⟨hversion, rfl⟩, (difference_eq_zero rfl).mpr rfl⟩

/-! ## What a signature is -/

section Sign

variable {hmac : Hmac} {secretWhsec msgId tsSeconds rawBody signature : String}

lemma sign_versioned
    (h : signStandardWebhook hmac secretWhsec msgId tsSeconds rawBody = .ok signature) :
    "v1,".toList.isPrefixOf signature.toList = true := by
  unfold signStandardWebhook at h
  split_ifs at h
  split at h
  · cases h
  · obtain rfl := Except.ok.inj h
    rw [String.toList_append, List.isPrefixOf_iff_prefix]
    exact List.prefix_append _ _

/-- Neither the version of a signature nor what `btoa` writes has white space in it. -/
lemma signature_solid :
    ("v1,".toList ++ (base64Chars ++ ['='])).all (fun c => !whiteSpace.contains c) = true := by
  rw [base64Chars_eq]
  decide +kernel

/-- A signature has no white space in it. -/
lemma sign_solid
    (h : signStandardWebhook hmac secretWhsec msgId tsSeconds rawBody = .ok signature) :
    ∀ c ∈ signature.toList, whiteSpace.contains c = false := by
  unfold signStandardWebhook at h
  split_ifs at h
  split at h
  · cases h
  · obtain rfl := Except.ok.inj h
    intro c hc
    rw [String.toList_append, List.mem_append] at hc
    have hmem : c ∈ "v1,".toList ++ (base64Chars ++ ['=']) :=
      List.mem_append.mpr (hc.imp_right fun h => mem_btoa _ c (String.toList_ofList ▸ h))
    simpa using List.all_eq_true.mp signature_solid c hmem

/-- A text without white space is the only candidate it makes. -/
lemma candidates_eq (hne : signature ≠ "")
    (hsolid : ∀ c ∈ signature.toList, whiteSpace.contains c = false) :
    candidates signature = [signature.toList] := by
  have hsplit : signature.toList.splitOnP whiteSpace.contains = [signature.toList] :=
    List.splitOnP_eq_singleton hsolid
  have hne' : signature.toList ≠ [] := fun h => hne (String.toList_inj.mp (h.trans rfl))
  rw [candidates, Relational.words, hsplit]
  simp [hne']

lemma ne_empty_of_sign
    (h : signStandardWebhook hmac secretWhsec msgId tsSeconds rawBody = .ok signature) :
    signature ≠ "" := by
  rintro rfl
  have hversion := sign_versioned h
  revert hversion
  decide

lemma isDigits_of_sign
    (h : signStandardWebhook hmac secretWhsec msgId tsSeconds rawBody = .ok signature) :
    isDigits tsSeconds = true := by
  unfold signStandardWebhook at h
  split_ifs at h with hthrows
  by_contra hdigits
  exact hthrows (.inr (by simpa using hdigits))

/-! ## Verifying -/

variable {signatureHeader : String} {options : VerifyOptions}

/-- **A header is accepted exactly if the timestamp is close enough and one of its candidates is the
signature**, whatever the secret and the function the signature is made with. -/
theorem verifyStandardWebhook_iff :
    verifyStandardWebhook hmac secretWhsec msgId tsSeconds rawBody signatureHeader options =
        .ok true ↔
      isFresh tsSeconds options = true ∧ ∃ signature,
        signStandardWebhook hmac secretWhsec msgId tsSeconds rawBody = .ok signature ∧
          signature.toList ∈ candidates signatureHeader := by
  have hany : ∀ {signature},
      signStandardWebhook hmac secretWhsec msgId tsSeconds rawBody = .ok signature →
        ((candidates signatureHeader).any (acceptsCandidate signature) = true ↔
          signature.toList ∈ candidates signatureHeader) := by
    intro signature hsign
    rw [List.any_eq_true]
    simp only [acceptsCandidate_iff (sign_versioned hsign), exists_eq_right]
  unfold verifyStandardWebhook
  constructor
  · intro h
    split_ifs at h with hdigits hfresh
    · cases h
    · cases h
    cases hsign : signStandardWebhook hmac secretWhsec msgId tsSeconds rawBody with
    | error message => simp [hsign] at h
    | ok signature =>
      rw [hsign] at h
      exact ⟨by simpa using hfresh, signature, rfl, (hany hsign).mp (Except.ok.inj h)⟩
  · rintro ⟨hfresh, signature, hsign, hmem⟩
    rw [isDigits_of_sign hsign, hfresh, hsign]
    exact congrArg Except.ok ((hany hsign).mpr hmem)

/-- **What is signed is accepted**, by whoever has the secret and a clock that is close enough. -/
theorem verify_sign
    (h : signStandardWebhook hmac secretWhsec msgId tsSeconds rawBody = .ok signature)
    (hfresh : isFresh tsSeconds options = true) :
    verifyStandardWebhook hmac secretWhsec msgId tsSeconds rawBody signature options =
      .ok true := by
  refine verifyStandardWebhook_iff.mpr ⟨hfresh, signature, h, ?_⟩
  rw [candidates_eq (ne_empty_of_sign h) (sign_solid h)]
  exact List.mem_singleton_self _

/-! ## What a signature is good for -/

/-- A signature is the code of what is signed, under the decoded secret. -/
lemma sign_eq (h : signStandardWebhook hmac secretWhsec msgId tsSeconds rawBody = .ok signature) :
    ∃ secret, decodeStandardWebhookSecret secretWhsec = .ok secret ∧
      signature = "v1," ++
        String.ofList (btoa (hmac secret (signedText msgId tsSeconds rawBody))) := by
  unfold signStandardWebhook at h
  split_ifs at h
  split at h
  · cases h
  · next secret hsecret => exact ⟨secret, hsecret, (Except.ok.inj h).symm⟩

variable {msgId' tsSeconds' rawBody' : String}

/-- Identifiers without a dot make what is signed unambiguous. -/
lemma signedText_inj (hid : '.' ∉ msgId.toList) (hid' : '.' ∉ msgId'.toList)
    (hts : isDigits tsSeconds = true) (hts' : isDigits tsSeconds' = true)
    (h : signedText msgId tsSeconds rawBody = signedText msgId' tsSeconds' rawBody') :
    msgId = msgId' ∧ tsSeconds = tsSeconds' ∧ rawBody = rawBody' := by
  have hdigits : ∀ {text : String}, isDigits text = true → '.' ∉ text.toList := by
    intro text htext hdot
    rw [isDigits, Bool.and_eq_true, List.all_eq_true] at htext
    exact absurd (htext.2 '.' hdot) (by decide)
  have hlist := congrArg String.toList h
  have hdot : ".".toList = ['.'] := String.toList_ofList
  simp only [signedText, String.toList_append, List.append_assoc, hdot, List.singleton_append]
    at hlist
  obtain ⟨hid, hrest⟩ := separated_inj hid hid' hlist
  obtain ⟨hts, hbody⟩ := separated_inj (hdigits hts) (hdigits hts') hrest
  exact ⟨String.toList_inj.mp hid, String.toList_inj.mp hts, String.toList_inj.mp hbody⟩

/-- **A signature is good for the message it was made for, and for no other** unless the two have
the same code: of messages whose identifiers have no dot, a fresh one is accepted under the header
of another exactly if it is that one, or different texts have one code. -/
theorem signature_binds (hid : '.' ∉ msgId.toList) (hid' : '.' ∉ msgId'.toList)
    (h : signStandardWebhook hmac secretWhsec msgId tsSeconds rawBody = .ok signature)
    (hfresh : isFresh tsSeconds' options = true) (hne : msgId' ≠ "")
    (hdigits : isDigits tsSeconds' = true) :
    verifyStandardWebhook hmac secretWhsec msgId' tsSeconds' rawBody' signature options =
        .ok true ↔
      msgId' = msgId ∧ tsSeconds' = tsSeconds ∧ rawBody' = rawBody ∨
        ∃ secret, decodeStandardWebhookSecret secretWhsec = .ok secret ∧
          signedText msgId' tsSeconds' rawBody' ≠ signedText msgId tsSeconds rawBody ∧
          hmac secret (signedText msgId' tsSeconds' rawBody') =
            hmac secret (signedText msgId tsSeconds rawBody) := by
  obtain ⟨secret, hsecret, hsignature⟩ := sign_eq h
  rw [verifyStandardWebhook_iff, candidates_eq (ne_empty_of_sign h) (sign_solid h)]
  simp only [List.mem_singleton, String.toList_inj]
  constructor
  · rintro ⟨-, _, hsign', rfl⟩
    obtain ⟨secret', hsecret', hsignature'⟩ := sign_eq hsign'
    obtain rfl := Except.ok.inj (hsecret'.symm.trans hsecret)
    have hcode := btoa_injective (String.ofList_injective
      (String.append_right_inj _ |>.mp (hsignature'.symm.trans hsignature)))
    by_cases htext : signedText msgId' tsSeconds' rawBody' = signedText msgId tsSeconds rawBody
    · exact .inl (signedText_inj hid' hid hdigits (isDigits_of_sign h) htext)
    · exact .inr ⟨_, hsecret, htext, hcode⟩
  · rintro (⟨rfl, rfl, rfl⟩ | ⟨secret', hsecret', -, hcode⟩)
    · exact ⟨hfresh, signature, h, rfl⟩
    · obtain rfl := Except.ok.inj (hsecret'.symm.trans hsecret)
      refine ⟨hfresh, signature, ?_, rfl⟩
      rw [hsignature, ← hcode, signStandardWebhook, if_neg (by simp [hne, hdigits]), hsecret]

/-- A code that is the text itself. -/
def textCode : Hmac := fun _ text => text.toList.map fun c => UInt8.ofNat c.toNat

/-- The header of one message is refused for another. -/
theorem signature_binds_other :
    verifyStandardWebhook textCode "whsec_AAAAAAAAAAAAAAAAAAAAAAAAAAAAAAAA" "msg_2" "1700000000" ""
      "v1,bXNnXzEuMTcwMDAwMDAwMC4=" ⟨1700000100, 300⟩ ≠ .ok true := by
  have hsign : signStandardWebhook textCode "whsec_AAAAAAAAAAAAAAAAAAAAAAAAAAAAAAAA" "msg_1"
      "1700000000" "" = .ok "v1,bXNnXzEuMTcwMDAwMDAwMC4=" := by decide +kernel
  intro h
  rcases (signature_binds (by decide) (by decide) hsign (by decide +kernel) (by decide)
    (by decide)).mp h with ⟨hid, -⟩ | ⟨secret, -, -, hcode⟩
  · exact absurd hid (by decide)
  · have hdiffer : textCode [] (signedText "msg_2" "1700000000" "") ≠
        textCode [] (signedText "msg_1" "1700000000" "") := by decide +kernel
    exact hdiffer hcode

end Sign

/-- The second of an attempt, as it is signed. -/
def secondsText (n : ℕ) : String := String.ofList (Nat.toDigits 10 n)

/-- A receiver whose clock is within the tolerance finds the second fresh. -/
lemma isFresh_secondsText {n : ℕ} {options : VerifyOptions} (hn : (n : ℤ) ≤ MAX_SAFE_INTEGER)
    (hnow : isSafeInteger options.nowSeconds = true)
    (htolerance : isSafeInteger options.toleranceSeconds = true)
    (hclose : |options.nowSeconds - n| ≤ options.toleranceSeconds) :
    isFresh (secondsText n) options = true := by
  have hvalue : numeral 10 (secondsText n).toList = n := by
    rw [secondsText, String.toList_ofList, numeral_toDigits_ten]
  have hsafe : isSafeInteger (n : ℤ) = true := by
    refine decide_eq_true ⟨?_, hn⟩
    unfold MAX_SAFE_INTEGER
    omega
  have hpositive : 0 ≤ options.toleranceSeconds := le_trans (abs_nonneg _) hclose
  simp [isFresh, hvalue, hsafe, hnow, htolerance, hpositive, hclose]

end Webhook
