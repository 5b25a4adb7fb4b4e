import Relaycast.Credential.Tables

/-!
# Pushing, rotating and upgrading credentials

The functions that change credentials, as programs over the statements: the push of a workspace key
by a control plane, the rotation of a workspace key and of other principals' tokens, the upgrade of
a legacy credential with its check, and the deletion of a workspace under its fence.
-/

namespace Credential

open Relational Interleaving

/-! ## Errors -/

/-- `codedError`. -/
structure CodedError where
  message : String
  code : String
  status : ℕ
  deriving DecidableEq

def workspaceDeleted : CodedError := ⟨"Workspace is being deleted", "workspace_deleted", 410⟩

def workspaceNotFound : CodedError := ⟨"Workspace not found", "workspace_not_found", 404⟩

def keyConflict : CodedError :=
  ⟨"api_key is already bound to a different workspace", "api_key_conflict", 409⟩

def staleGeneration (workspaceId : WorkspaceId) (requested stored : ℕ) : CodedError :=
  ⟨"key_generation " ++ toString requested ++ " does not beat the stored generation " ++
    toString stored ++ " for workspace " ++ workspaceId ++ "; the push is stale and was not applied",
    "stale_key_generation", 409⟩

def generationExhausted (workspaceId : WorkspaceId) : CodedError :=
  ⟨"workspace " ++ workspaceId ++
    " is at the maximum api_key_generation; it cannot be rotated further",
    "key_generation_exhausted", 409⟩

def generationRequired (workspaceId : WorkspaceId) (stored : ℕ) : CodedError :=
  ⟨"workspace " ++ workspaceId ++ " is fenced at api_key_generation " ++ toString stored ++
    "; pushes that change the key must carry key_generation greater than that",
    "key_generation_required", 409⟩

def writeConflict (workspaceId : WorkspaceId) : CodedError :=
  ⟨"Concurrent key writes are contending workspace " ++ workspaceId ++ "; retry",
    "key_write_conflict", 409⟩

def invalidGrace : CodedError :=
  ⟨"grace must be an integer between 0 and 3600000 ms", "invalid_grace", 400⟩

def upgradeUnavailable : CodedError :=
  ⟨"This deployment does not issue ar_ credentials", "credential_upgrade_unavailable", 409⟩

def superseded : CodedError :=
  ⟨"This credential was superseded; upgrade with the principal's current credential",
    "credential_superseded", 409⟩

def graceExpired : CodedError :=
  ⟨"The legacy credential's grace has ended; use its ar_ credential, or rotate it if lost",
    "credential_grace_expired", 401⟩

/-- What the driver throws when a unique index refuses a write. -/
def uniqueViolation : CodedError := ⟨"UNIQUE constraint failed", "internal_error", 500⟩

/-! ## `pushWorkspaceKey` -/

/-- `Number.MAX_SAFE_INTEGER`. -/
def maxSafeInteger : ℕ := 9007199254740991

/-- `PushWorkspaceKeyInput`. -/
structure PushWorkspaceKeyInput where
  apiKey : Option Key
  keyGeneration : Option ℕ
  graceMs : Option Millis

/-- `PushWorkspaceKeyResult`. -/
structure PushWorkspaceKeyResult where
  created : Bool
  workspaceId : WorkspaceId
  apiKeyGeneration : ℕ
  mintedApiKey : Option Key
  deriving DecidableEq

/-- What a push returns or throws. -/
abbrev PushResult := Except CodedError PushWorkspaceKeyResult

/-- A push under way: its workspace, its input, the key and its digest. -/
structure Push where
  workspaceId : WorkspaceId
  input : PushWorkspaceKeyInput
  apiKey : Key
  apiKeyHash : Hash

namespace Push

variable (p : Push)

/-- The engine minted the key. -/
def minted : Bool := p.input.apiKey.isNone

/-- A minted key without a generation derives its generation from what it reads. -/
def derivedGeneration : Bool := p.minted && p.input.keyGeneration.isNone

/-- A result of the push. -/
def result (created : Bool) (generation : ℕ) (minted : Bool) : PushResult :=
  .ok ⟨created, p.workspaceId, generation, if minted then some p.apiKey else none⟩

/-- What an attempt ends in: an answer, or another look at a fresh row under the generation the
attempt has derived. -/
inductive Attempt
  | answer (result : PushResult)
  | again (keyGeneration : Option ℕ) (row : Option KeyRow)

/-- The branch for a missing workspace. -/
def create (keyGeneration : Option ℕ) : Prog lang Attempt := do
  if p.minted then pure (.answer (.error workspaceNotFound))
  else
    let owned : Bool ← await (.keyOwnedElsewhere p.apiKeyHash p.workspaceId)
    if owned then pure (.answer (.error keyConflict))
    else
      let generation := keyGeneration.getD 0
      let outcome : CreateOutcome ←
        await (.createWorkspace p.workspaceId p.apiKeyHash generation)
      match outcome with
      | .fenced => pure (.answer (.error workspaceDeleted))
      | .created => pure (.answer (p.result true generation false))
      | .keyGuard => pure (.answer (.error keyConflict))
      | .uniqueViolation =>
        let fresh : Option KeyRow ← await (.readKeyRow p.workspaceId)
        match fresh with
        | none => pure (.answer (.error keyConflict))
        | some fresh => pure (.again keyGeneration (some fresh))

/-- Read the row again for another attempt. -/
def reread (keyGeneration : Option ℕ) : Prog lang Attempt := do
  let row : Option KeyRow ← await (.readKeyRow p.workspaceId)
  pure (.again keyGeneration row)

/-- The branch for a re-push of the live key. -/
def repush (keyGeneration : Option ℕ) (stored : ℕ) : Prog lang Attempt :=
  match keyGeneration with
  | none => pure (.answer (p.result false stored false))
  | some generation =>
    if stored < generation then do
      let outcome : WriteOutcome ← await (.bumpGeneration p.workspaceId p.apiKeyHash generation)
      match outcome with
      | .fenced => pure (.answer (.error workspaceDeleted))
      | .missed => p.reread keyGeneration
      | .applied => pure (.answer (p.result false generation false))
    else pure (.answer (p.result false stored false))

/-- The branch for a change of the key without a generation. -/
def changeGenerationless (row : KeyRow) : Prog lang Attempt :=
  if 0 < row.apiKeyGeneration then
    pure (.answer (.error (generationRequired p.workspaceId row.apiKeyGeneration)))
  else do
    let outcome : WriteOutcome ←
      await (.changeKey p.workspaceId row.apiKeyHash p.apiKeyHash)
    match outcome with
    | .fenced => pure (.answer (.error workspaceDeleted))
    | .missed => p.reread none
    | .applied => pure (.answer (p.result false 0 false))

/-- What a fenced change that missed makes of the fresh row. -/
def lost (generation : ℕ) (fresh : Option KeyRow) : Attempt :=
  match fresh with
  | some fresh =>
    if fresh.apiKeyHash = p.apiKeyHash ∧ generation ≤ fresh.apiKeyGeneration then
      .answer (p.result false fresh.apiKeyGeneration false)
    else if !p.derivedGeneration ∧ generation ≤ fresh.apiKeyGeneration then
      .answer (.error (staleGeneration p.workspaceId generation fresh.apiKeyGeneration))
    else .again (some generation) (some fresh)
  | none => .again (some generation) none

/-- The branch for a change of the key under a generation. -/
def changeFenced (generation : ℕ) (row : KeyRow) : Prog lang Attempt :=
  if generation ≤ row.apiKeyGeneration then
    pure (.answer (.error (staleGeneration p.workspaceId generation row.apiKeyGeneration)))
  else do
    let outcome : WriteOutcome ←
      await (.changeKeyFenced p.workspaceId row.apiKeyHash p.apiKeyHash generation
        (p.input.graceMs.getD 0))
    match outcome with
    | .fenced => pure (.answer (.error workspaceDeleted))
    | .missed =>
      let fresh : Option KeyRow ← await (.readKeyRow p.workspaceId)
      pure (p.lost generation fresh)
    | .applied => pure (.answer (p.result false generation p.minted))

/-- The branch for a change of the key. -/
def change (keyGeneration : Option ℕ) (row : KeyRow) : Prog lang Attempt := do
  let owned : Bool ← await (.keyOwnedElsewhere p.apiKeyHash p.workspaceId)
  if owned then pure (.answer (.error keyConflict))
  else if p.derivedGeneration then
    if maxSafeInteger ≤ row.apiKeyGeneration then
      pure (.answer (.error (generationExhausted p.workspaceId)))
    else p.changeFenced (row.apiKeyGeneration + 1) row
  else
    match keyGeneration with
    | none => p.changeGenerationless row
    | some generation => p.changeFenced generation row

/-- One attempt. -/
def attempt (keyGeneration : Option ℕ) (row : Option KeyRow) : Prog lang Attempt := do
  let writable : Bool ← await (.assertWritable p.workspaceId)
  if writable then
    match row with
    | none => p.create keyGeneration
    | some row =>
      if row.apiKeyHash = p.apiKeyHash then p.repush keyGeneration row.apiKeyGeneration
      else p.change keyGeneration row
  else pure (.answer (.error workspaceDeleted))

/-- The attempts that are left. -/
def attempts (keyGeneration : Option ℕ) (row : Option KeyRow) : ℕ → Prog lang PushResult
  | 0 => pure (.error (writeConflict p.workspaceId))
  | n + 1 => do
    match ← p.attempt keyGeneration row with
    | .answer result => pure result
    | .again keyGeneration row => attempts keyGeneration row n

end Push

/-- The key of a push: the caller's, or a minted one. -/
def pushedKey (apiKey : Option Key) : Prog lang Key :=
  match apiKey with
  | some key => pure key
  | none => await .issueCredential

def pushWorkspaceKey (workspaceId : WorkspaceId) (input : PushWorkspaceKeyInput) :
    Prog lang PushResult := do
  let writable : Bool ← await (.assertWritable workspaceId)
  if writable then
    let apiKey ← pushedKey input.apiKey
    let apiKeyHash : Hash ← await (.sha256Hex apiKey)
    let row : Option KeyRow ← await (.readKeyRow workspaceId)
    Push.attempts ⟨workspaceId, input, apiKey, apiKeyHash⟩ input.keyGeneration row 2
  else pure (.error workspaceDeleted)

/-! ## Rotations -/

/-- What `rotateWorkspaceKey` returns. -/
structure RotateResult where
  apiKey : Key
  apiKeyGeneration : ℕ
  deriving DecidableEq

def rotateWorkspaceKey (workspaceId : WorkspaceId) (graceMs : Option Millis) :
    Prog lang (Except CodedError RotateResult) :=
  let graceMs := graceMs.getD 60000
  if 3600000 < graceMs then pure (.error invalidGrace)
  else do
    let existing : Option KeyRow ← await (.readKeyRow workspaceId)
    match existing with
    | none => pure (.error workspaceNotFound)
    | some existing =>
      let newApiKey : Key ← await .issueCredential
      let newApiKeyHash : Hash ← await (.sha256Hex newApiKey)
      let stored : Bool ← await (.rotateKey workspaceId newApiKeyHash graceMs)
      if stored then pure (.ok ⟨newApiKey, existing.apiKeyGeneration + 1⟩)
      else pure (.error uniqueViolation)

/-- The rotation of the token of an agent, a node, an observer or a webhook. -/
def rotateToken (kind : Kind) (id : PrincipalId) : Prog lang (Except CodedError Key) := do
  let newToken : Key ← await .issueCredential
  let newTokenHash : Hash ← await (.sha256Hex newToken)
  let stored : Bool ← await (.rotatePrincipal kind id newTokenHash)
  if stored then pure (.ok newToken) else pure (.error uniqueViolation)

/-! ## Upgrades -/

/-- The arguments of an upgrade; `available` says that the deployment issues `ar_` credentials for
the workspace. -/
structure UpgradeArgs where
  legacyToken : Key
  kind : Kind
  principalId : PrincipalId
  workspaceId : WorkspaceId
  currentHash : Option Hash
  graceSeconds : Seconds
  available : Bool

/-- `CredentialUpgradeResult`. -/
structure CredentialUpgradeResult where
  credential : Key
  kind : Kind
  legacyExpiresAt : Seconds
  deriving DecidableEq

/-- What an upgrade returns or throws. -/
abbrev UpgradeResult := Except CodedError CredentialUpgradeResult

namespace UpgradeArgs

variable (args : UpgradeArgs)

/-- `claimed`: the upgrade that claimed the legacy credential, while the principal still holds its
`ar_` credential. -/
def claimed (legacyHash : Hash) : Prog lang (Except CodedError (Option GraceRecord)) := do
  let record : Option GraceRecord ← await (.readRecord legacyHash)
  match record with
  | none => pure (.ok none)
  | some record =>
    let current : Option Hash ← await (.principalHash args.kind args.principalId)
    if current = some record.arHash then pure (.ok (some record))
    else pure (.error superseded)

/-- What a record gives its holder. -/
def opened (C : Crypto) (legacyHash : Hash) (record : GraceRecord) : UpgradeResult :=
  .ok ⟨C.unsealCredential record.sealedCredential args.legacyToken legacyHash, args.kind,
    record.expiresAt⟩

/-- The upgrade found its claim already there. -/
def replay (C : Crypto) (legacyHash : Hash) (record : GraceRecord) : Prog lang UpgradeResult := do
  let now : Millis ← await .dateNow
  if toDate record.expiresAt ≤ now then pure (.error graceExpired)
  else pure (args.opened C legacyHash record)

/-- The upgrade lost to another writer, or won. -/
def settle (C : Crypto) (legacyHash : Hash) (credential : Key) (arHash : Hash)
    (expiresAt : Seconds) : Prog lang UpgradeResult := do
  let current : Option Hash ← await (.principalHash args.kind args.principalId)
  if current = some arHash then pure (.ok ⟨credential, args.kind, expiresAt⟩)
  else
    match ← args.claimed legacyHash with
    | .error e => pure (.error e)
    | .ok none => pure (.error superseded)
    | .ok (some winner) => pure (args.opened C legacyHash winner)

/-- Mint the `ar_` credential and swap it in. -/
def swap (C : Crypto) (legacyHash : Hash) : Prog lang UpgradeResult := do
  let credential : Key ← await .issueCredential
  let arHash : Hash ← await (.sha256Hex credential)
  let sealedCredential : String ← await (.sealCredential credential args.legacyToken legacyHash)
  let now : Millis ← await .dateNow
  let expiresAt := toSeconds now + args.graceSeconds
  let stored : Bool ← await (.swapAndRecord ⟨args.kind, args.principalId, args.workspaceId,
    legacyHash, arHash, sealedCredential, expiresAt⟩)
  if stored then args.settle C legacyHash credential arHash expiresAt
  else pure (.error uniqueViolation)

end UpgradeArgs

def upgradeLegacyCredential (C : Crypto) (args : UpgradeArgs) : Prog lang UpgradeResult := do
  if args.available then
    let legacyHash : Hash ← await (.sha256Hex args.legacyToken)
    match ← args.claimed legacyHash with
    | .error e => pure (.error e)
    | .ok (some existing) => args.replay C legacyHash existing
    | .ok none =>
      if args.currentHash = some legacyHash then args.swap C legacyHash
      else pure (.error superseded)
  else pure (.error upgradeUnavailable)

/-- `upgradedLegacyCredential`: the record a legacy credential still authenticates through. -/
def upgradedLegacyCredential (kind : Kind) (legacyHash : Hash) :
    Prog lang (Option GraceRecord) := do
  let row : Option GraceRecord ← await (.readLiveRecord kind legacyHash)
  match row with
  | none => pure none
  | some row =>
    let current : Option Hash ← await (.principalHash kind row.principalId)
    if current = some row.arHash then pure (some row) else pure none

/-! ## Deletion -/

/-- `DELETE /internal/workspaces/:id`. -/
def deleteInternalWorkspace (id : WorkspaceId) : Prog lang Bool := do
  let _ : Unit ← await (.beginDeletion id)
  let succeeded : Bool ← await (.deleteWorkspace id)
  if succeeded then
    let _ : Unit ← await (.commitDeletion id)
    pure true
  else
    let _ : Unit ← await (.releaseDeletion id)
    pure false

/-! ## The service -/

/-- A call of one of the functions. -/
inductive Call
  | pushWorkspaceKey (workspaceId : WorkspaceId) (input : PushWorkspaceKeyInput)
  | rotateWorkspaceKey (workspaceId : WorkspaceId) (graceMs : Option Millis)
  | rotateToken (kind : Kind) (id : PrincipalId)
  | upgradeLegacyCredential (args : UpgradeArgs)
  | upgradedLegacyCredential (kind : Kind) (legacyHash : Hash)
  | deleteInternalWorkspace (id : WorkspaceId)

/-- What a call returns. -/
def Call.Result : Call → Type
  | .pushWorkspaceKey .. => PushResult
  | .rotateWorkspaceKey .. => Except CodedError RotateResult
  | .rotateToken .. => Except CodedError Key
  | .upgradeLegacyCredential _ => UpgradeResult
  | .upgradedLegacyCredential .. => Option GraceRecord
  | .deleteInternalWorkspace _ => Bool

/-- The body of a call. -/
def Call.body (C : Crypto) : (c : Call) → Prog lang c.Result
  | .pushWorkspaceKey workspaceId input => Credential.pushWorkspaceKey workspaceId input
  | .rotateWorkspaceKey workspaceId graceMs => Credential.rotateWorkspaceKey workspaceId graceMs
  | .rotateToken kind id => Credential.rotateToken kind id
  | .upgradeLegacyCredential args => Credential.upgradeLegacyCredential C args
  | .upgradedLegacyCredential kind legacyHash =>
    Credential.upgradedLegacyCredential kind legacyHash
  | .deleteInternalWorkspace id => Credential.deleteInternalWorkspace id

/-- The credentials, from the stores that `init` allows. -/
def service (C : Crypto) (init : Store → Prop) : System lang Store Call Call.Result where
  toMachine := machine C
  body := Call.body C
  init := init

end Credential
