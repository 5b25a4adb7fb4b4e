import Relaycast.Coding.Alphabet
import Relaycast.Coding.Crc
import Relaycast.Coding.Decimal

/-!
# The format of a credential

`ar_<kind>_<wsid>_<tag>_<secret><crc>`: the workspace and the secret in base62 of fixed widths, the
routing tag as it is given, and the CRC-32 of everything before it.  Texts are lists of characters;
those that match the format, and those that checksums are taken of, are ASCII.
-/

namespace CredentialFormat

open Coding Script

/-- A text, as its characters. -/
abbrev Text := List Char

inductive CredentialKind
  | workspace
  | agent
  | node
  | observer
  | webhook
  deriving DecidableEq

namespace CredentialKind

/-- `KINDS`. -/
def all : List CredentialKind := [workspace, agent, node, observer, webhook]

/-- `LEGACY_CREDENTIAL_PREFIXES`. -/
def legacyPrefix : CredentialKind → Text
  | workspace => "rk_live_".toList
  | agent => "at_live_".toList
  | node => "nt_live_".toList
  | observer => "ot_live_".toList
  | webhook => "wh_live_".toList

/-- `AR_KIND_CODES`. -/
def code : CredentialKind → Text
  | workspace => "ws".toList
  | agent => "ag".toList
  | node => "nd".toList
  | observer => "ob".toList
  | webhook => "wh".toList

/-- `KIND_BY_CODE`. -/
def byCode (text : Text) : Option CredentialKind := all.find? fun kind => kind.code == text

lemma mem_all (kind : CredentialKind) : kind ∈ all := by
  cases kind <;> decide

@[simp] lemma byCode_code (kind : CredentialKind) : byCode kind.code = some kind := by
  cases kind <;> decide

@[simp] lemma length_code (kind : CredentialKind) : kind.code.length = 2 := by
  cases kind <;> rfl

end CredentialKind

inductive ParsedCredential
  | legacy (kind : CredentialKind)
  | ar (kind : CredentialKind) (workspaceId tag : Text) (keyVersion : Char)
  deriving DecidableEq

def AR_CREDENTIAL_PREFIX : Text := "ar_".toList
def AR_WORKSPACE_ID_LENGTH : ℕ := 11
def AR_TAG_LENGTH : ℕ := 11
def AR_SECRET_LENGTH : ℕ := 43
def AR_CHECKSUM_LENGTH : ℕ := 6
def AR_SECRET_BYTES : ℕ := 32

/-! ## Base 62 -/

def BASE62 : Text := "0123456789ABCDEFGHIJKLMNOPQRSTUVWXYZabcdefghijklmnopqrstuvwxyz".toList

/-- The characters of the alphabet, for evaluation. -/
lemma BASE62_eq : BASE62 =
    ['0', '1', '2', '3', '4', '5', '6', '7', '8', '9', 'A', 'B', 'C', 'D', 'E', 'F', 'G',
      'H', 'I', 'J', 'K', 'L', 'M', 'N', 'O', 'P', 'Q', 'R', 'S', 'T', 'U', 'V', 'W', 'X',
      'Y', 'Z', 'a', 'b', 'c', 'd', 'e', 'f', 'g', 'h', 'i', 'j', 'k', 'l', 'm', 'n', 'o',
      'p', 'q', 'r', 's', 't', 'u', 'v', 'w', 'x', 'y', 'z'] := String.toList_ofList

def MAX_SNOWFLAKE : ℕ := 2 ^ 64 - 1

/-- The loop of `base62Encode`. -/
def base62Loop (rest : ℕ) (out : Text) : Text :=
  if rest = 0 then out else base62Loop (rest / 62) (BASE62.getD (rest % 62) '0' :: out)
termination_by rest
decreasing_by omega

/-- `base62Encode`, of a number that is not negative. -/
def base62Encode (value width : ℕ) : Except String Text :=
  let out := base62Loop value []
  if width < out.length then .error "Value does not fit base62 characters"
  else .ok (out.leftpad width '0')

/-- `base62Decode`. -/
def base62Decode (text : Text) : Except String ℕ :=
  text.foldlM (fun value char =>
    if BASE62.contains char then .ok (value * 62 + BASE62.idxOf char) else .error "Not base62") 0

/-- `bytesToBigInt`. -/
def bytesToBigInt (bytes : List UInt8) : ℕ :=
  bytes.foldl (fun value byte => (value <<< 8) ||| byte.toNat) 0

/-! ## Workspaces -/

/-- `/^(0|[1-9][0-9]{0,19})$/`. -/
def isSnowflakeText (text : Text) : Bool :=
  text == ['0'] ||
    (decide (text.length ≤ 20) && text.all Char.isDigit && text.head?.any (· != '0'))

/-- `encodeArWorkspaceId`. -/
def encodeArWorkspaceId (workspaceId : Text) : Except String Text :=
  if isSnowflakeText workspaceId ∧ numeral 10 workspaceId ≤ MAX_SNOWFLAKE then
    base62Encode (numeral 10 workspaceId) AR_WORKSPACE_ID_LENGTH
  else .error "Workspace id is not a 64-bit snowflake"

/-- `isArWorkspaceId`. -/
def isArWorkspaceId (workspaceId : Text) : Bool :=
  match encodeArWorkspaceId workspaceId with
  | .ok _ => true
  | .error _ => false

/-! ## The checksum -/

/-- The polynomial of `CRC_TABLE`. -/
def CRC_POLYNOMIAL : BitVec 32 := 0xedb88320

/-- `CRC_TABLE[n]`. -/
def CRC_TABLE (n : BitVec 32) : BitVec 32 := (crcShift CRC_POLYNOMIAL)^[8] n

/-- The step of `crc32`. -/
def crcStep (crc : BitVec 32) (char : Char) : BitVec 32 :=
  CRC_TABLE ((crc ^^^ BitVec.ofNat 32 char.toNat) &&& 255#32) ^^^ (crc >>> 8)

/-- `crc32`. -/
def crc32 (text : Text) : ℕ := (text.foldl crcStep 0xffffffff ^^^ 0xffffffff).toNat

/-- `arChecksum`. -/
def arChecksum (body : Text) : Except String Text := base62Encode (crc32 body) AR_CHECKSUM_LENGTH

/-! ## Credentials -/

/-- `/^[a-z][0-9A-Za-z]{10}$/`. -/
def isTag (tag : Text) : Bool :=
  tag.length == AR_TAG_LENGTH && tag.head?.any Char.isLower && tag.all BASE62.contains

/-- The arguments of `encodeArCredential`. -/
structure CredentialArgs where
  kind : CredentialKind
  workspaceId : Text
  tag : Text
  secret : List UInt8

/-- `encodeArCredential`. -/
def encodeArCredential (args : CredentialArgs) : Except String Text :=
  if !isTag args.tag then
    .error "A credential tag is a key version letter plus 10 base62 characters"
  else if args.secret.length ≠ AR_SECRET_BYTES then .error "A credential secret is 32 bytes"
  else do
    let wsid ← encodeArWorkspaceId args.workspaceId
    let secret ← base62Encode (bytesToBigInt args.secret) AR_SECRET_LENGTH
    let body := AR_CREDENTIAL_PREFIX ++ args.kind.code ++ ['_'] ++ wsid ++ ['_'] ++ args.tag ++
      ['_'] ++ secret
    let checksum ← arChecksum body
    return body ++ checksum

/-- What the groups of `AR` capture. -/
structure ArGroups where
  kind : Text
  wsid : Text
  tag : Text
  secret : Text
  crc : Text

namespace ArGroups

/-- What the checksum is of. -/
def body (m : ArGroups) : Text :=
  AR_CREDENTIAL_PREFIX ++ m.kind ++ ['_'] ++ m.wsid ++ ['_'] ++ m.tag ++ ['_'] ++ m.secret

/-- What is matched. -/
def text (m : ArGroups) : Text := m.body ++ m.crc

/-- Do the groups match? -/
def wellFormed (m : ArGroups) : Bool :=
  (CredentialKind.all.map CredentialKind.code).contains m.kind &&
    (m.wsid.length == AR_WORKSPACE_ID_LENGTH && m.wsid.all BASE62.contains) &&
    isTag m.tag &&
    (m.secret.length == AR_SECRET_LENGTH && m.secret.all BASE62.contains) &&
    (m.crc.length == AR_CHECKSUM_LENGTH && m.crc.all BASE62.contains)

/-- The places of the groups in a text. -/
def ofText (token : Text) : ArGroups where
  kind := (token.drop 3).take 2
  wsid := (token.drop 6).take 11
  tag := (token.drop 18).take 11
  secret := (token.drop 30).take 43
  crc := token.drop 73

end ArGroups

/-- `AR.exec`. -/
def AR (token : Text) : Option ArGroups :=
  let m := ArGroups.ofText token
  if m.wellFormed ∧ m.text = token then some m else none

/-- `parseCredential`. -/
def parseCredential (token : Text) : Except String (Option ParsedCredential) :=
  match AR token with
  | some ar => do
    let checksum ← arChecksum (token.take (token.length - AR_CHECKSUM_LENGTH))
    if checksum ≠ ar.crc then return none
    let workspace ← base62Decode ar.wsid
    if MAX_SNOWFLAKE < workspace then return none
    match CredentialKind.byCode ar.kind with
    | none => return none
    | some kind =>
      return some (.ar kind (Nat.toDigits 10 workspace) ar.tag (ar.tag.headD '0'))
  | none =>
    .ok ((CredentialKind.all.find? fun kind => kind.legacyPrefix.isPrefixOf token).map .legacy)

end CredentialFormat
