import Relaycast.Script.Json
import Relaycast.Script.Text

/-!
# The secret of a relayfile target

A subscription of a channel to a provider's files is a callback URL and a secret: the URL names the
workspace, the channel, the provider and the path glob, and the secret is an HMAC of these under the
master key of the bridge.  An inbound event is accepted for the target its URL names if it is
signed with the secret of that target, so the target is bound only as far as the text under the HMAC
tells targets apart.

Targets with the pull-request identity write that text as a JSON tuple, every other target joins its
fields with colons and escapes none of them.  `inboundSecret_binds_iff` says what this comes to: the
secret binds its target unless two targets of the second kind have the same sequence of pieces
between colons, grouped into fields differently.
-/

namespace Relayfile

open Script

/-! ## The platform -/

/-- What the runtime provides: HMAC-SHA-256, the lower case of a text, and the date a text stands
for. -/
structure Platform where
  hmac : List UInt8 → List UInt8 → List UInt8
  toLowerCase : String → String
  dateParse : String → Option ℤ
  toLowerCase_idem : ∀ text, toLowerCase (toLowerCase text) = toLowerCase text
  trimmed_toLowerCase : ∀ text, trimmed text = true → trimmed (toLowerCase text) = true

/-- An ideal HMAC: injective in its message under one key, and never the same under two keys. -/
structure Platform.IdealHmac (P : Platform) : Prop where
  message : ∀ key m m', P.hmac key m = P.hmac key m' → m = m'
  key : ∀ key key' m m', P.hmac key m = P.hmac key' m' → key = key'

/-- `new TextEncoder().encode(text)`. -/
def encode (text : String) : List UInt8 := text.toByteArray.data.toList

lemma encode_injective : Function.Injective encode := by
  intro text text' h
  have hdata : text.toByteArray.data = text'.toByteArray.data := Array.toList_inj.mp h
  exact String.toByteArray_inj.mp (ByteArray.ext hdata)

/-- The two digits of a byte. -/
def byteHex (b : UInt8) : List Char := [hexDigit (b.toNat / 16), hexDigit (b.toNat % 16)]

/-- `bytesToHex`. -/
def bytesToHex (bytes : List UInt8) : String := String.ofList (bytes.flatMap byteHex)

lemma hexDigit_injective {m n : ℕ} (hm : m < 16) (hn : n < 16) (h : hexDigit m = hexDigit n) :
    m = n := by
  rw [← idxOf_hexDigit m hm, ← idxOf_hexDigit n hn, h]

lemma byteHex_injective {b b' : UInt8} (h : byteHex b = byteHex b') : b = b' := by
  have hb := b.toNat_lt
  have hb' := b'.toNat_lt
  simp only [byteHex, List.cons.injEq, and_true] at h
  have hhigh := hexDigit_injective (by omega) (by omega) h.1
  have hlow := hexDigit_injective (by omega) (by omega) h.2
  apply UInt8.toNat_inj.mp
  omega

lemma bytesToHex_injective : Function.Injective bytesToHex := by
  intro bytes bytes' h
  replace h := String.ofList_injective h
  induction bytes generalizing bytes' with
  | nil =>
    cases bytes' with
    | nil => rfl
    | cons b' bytes' => simp [byteHex] at h
  | cons b bytes ih =>
    cases bytes' with
    | nil => simp [byteHex] at h
    | cons b' bytes' =>
      rw [List.flatMap_cons, List.flatMap_cons] at h
      obtain ⟨hb, hrest⟩ := List.append_inj h rfl
      rw [byteHex_injective hb, ih hrest]

/-- The value of a hexadecimal digit in lower case. -/
def hexValue (c : Char) : Option ℕ :=
  if c ∈ "0123456789abcdef".toList then some ("0123456789abcdef".toList.idxOf c) else none

/-- The bytes of a text of digits, two at a time. -/
def hexPairs : List Char → Option (List UInt8)
  | [] => some []
  | c :: d :: rest => do
    let high ← hexValue c
    let low ← hexValue d
    let bytes ← hexPairs rest
    pure (UInt8.ofNat (16 * high + low) :: bytes)
  | [_] => none

/-- `hexToBytes`. -/
def hexToBytes (hex : String) : Option (List UInt8) :=
  if hex = "" then none else hexPairs hex.toList

/-! ## Targets -/

/-- `normalizeProvider`. -/
def normalizeProvider (P : Platform) (provider : String) : String := P.toLowerCase (trim provider)

/-- `normalizePathGlob`. -/
def normalizePathGlob (pathGlob : String) : String :=
  let text := trim pathGlob
  if text = "" || text = "*" then "/**"
  else if text.toList.head? = some '/' then text
  else String.ofList ('/' :: text.toList)

/-- A target, with its provider and glob as the caller has them. -/
structure InboundTarget where
  workspaceId : String
  channelId : String
  provider : String
  pathGlob : String
  githubPrIdentityAuthorized : Bool
  deriving DecidableEq

/-- The parameters of `POST /integrations/relayfile/inbound/:workspaceId/:channelId`. -/
structure Params where
  workspaceId : String
  channelId : String
  provider : Option String
  pathGlob : Option String
  githubPrIdentity : Option String

/-- The target the route reads from its parameters; none if one is missing. -/
def Params.target? (P : Platform) (q : Params) : Option InboundTarget :=
  let provider := normalizeProvider P (q.provider.getD "")
  let rawPathGlob := trim (q.pathGlob.getD "")
  if q.workspaceId = "" || q.channelId = "" || provider = "" || rawPathGlob = "" then none
  else some ⟨q.workspaceId, q.channelId, provider, normalizePathGlob rawPathGlob,
    q.githubPrIdentity == some "1"⟩

/-- Is there a URL with this target? -/
def InboundTarget.Reachable (P : Platform) (t : InboundTarget) : Prop :=
  ∃ q : Params, q.target? P = some t

def SECRET_LABEL : String := "relayfile-inbound:v1"

/-- The text under the HMAC. -/
def InboundTarget.label (P : Platform) (t : InboundTarget) : List Char :=
  let provider := normalizeProvider P t.provider
  let pathGlob := normalizePathGlob t.pathGlob
  if t.githubPrIdentityAuthorized then
    render (.arr [.str (SECRET_LABEL ++ ":github-pr-identity-v1"), .str t.workspaceId,
      .str t.channelId, .str provider, .str pathGlob])
  else
    SECRET_LABEL.toList ++ ':' :: (t.workspaceId.toList ++ ':' :: (t.channelId.toList ++
      ':' :: (provider.toList ++ ':' :: pathGlob.toList)))

/-- `deriveRelayfileInboundSecret`. -/
def deriveRelayfileInboundSecret (P : Platform) (master : String) (t : InboundTarget) : String :=
  bytesToHex (P.hmac (encode master) (encode (String.ofList (t.label P))))

/-! ## The route, up to the signature -/

def MAX_SKEW_MS : ℕ := 5 * 60 * 1000

def MAX_RELAYFILE_BODY_BYTES : ℕ := 1024 * 1024

/-- The two headers of a signed request. -/
structure Headers where
  timestamp : Option String
  signature : Option String

/-- `/^\d+$/`. -/
def isDecimal (text : String) : Bool := text != "" && text.toList.all Char.isDigit

/-- `parseRelayTimestamp`, in milliseconds. -/
def parseRelayTimestamp (P : Platform) (timestamp : String) : Option ℤ :=
  if isDecimal timestamp then
    some ((timestamp.toList.foldl (fun n c => 10 * n + (c.toNat - '0'.toNat)) 0 : ℕ) * 1000)
  else P.dateParse timestamp

/-- `signature.slice('sha256='.length)`, where the signature has that prefix. -/
def providedHex (signature : String) : String :=
  if "sha256=".toList <+: signature.toList then String.ofList (signature.toList.drop 7)
  else signature

/-- `verifyRelayfileSignature`; comparing in constant time is comparing. -/
def verifyRelayfileSignature (P : Platform) (headers : Headers) (body : List UInt8)
    (secret : String) (now : ℤ) : Except String Unit :=
  let timestamp := trim (headers.timestamp.getD "")
  let signature := P.toLowerCase (trim (headers.signature.getD ""))
  if timestamp = "" || signature = "" then .error "missing_headers"
  else match parseRelayTimestamp P timestamp with
  | none => .error "invalid_timestamp"
  | some timestampMs =>
    if MAX_SKEW_MS < (now - timestampMs).natAbs then .error "timestamp_skew"
    else match hexToBytes (providedHex signature) with
    | none => .error "invalid_signature_encoding"
    | some provided =>
      if provided = P.hmac (encode secret) (encode (timestamp ++ ".") ++ body) then .ok ()
      else .error "signature_mismatch"

/-- How the route answers before it looks at the event. -/
inductive Answer
  | badRequest
  | unavailable
  | payloadTooLarge
  | unauthorized (reason : String)
  | verified (t : InboundTarget)
  deriving DecidableEq

/-- `POST /integrations/relayfile/inbound/:workspaceId/:channelId`, up to the signature: an event is
accepted only for a verified target. -/
def inbound (P : Platform) (master : Option String) (q : Params) (headers : Headers)
    (body : List UInt8) (now : ℤ) : Answer :=
  match q.target? P with
  | none => .badRequest
  | some t =>
    let master := trim (master.getD "")
    if master = "" then .unavailable
    else if MAX_RELAYFILE_BODY_BYTES < body.length then .payloadTooLarge
    else match verifyRelayfileSignature P headers body (deriveRelayfileInboundSecret P master t) now
      with
    | .error reason => .unauthorized reason
    | .ok () => .verified t

end Relayfile
