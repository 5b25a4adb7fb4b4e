import Mathlib.Algebra.GroupWithZero.Nat
import Relaycast.Workspace.Tables

/-!
# Creating and deleting workspaces

`createWorkspace` looks for the binding of its key, and if there is none tries to write the
workspace, its channel and the binding in one batch, up to five times.  The key it hands out is
derived from the request, so that a request that is made again, or whose first batch has committed
without a reply, recovers it from the row.  `deleteWorkspace` removes a small workspace at once and
tombstones a large one, which `reapWorkspace` drains; both terminalize the binding.

Which families of keys a deployment derives may change between calls, so every create carries its
own.
-/

namespace Workspace

open Relational Interleaving

/-! ## Errors -/

def coded (message code : String) (status : ℕ) : Failure := .coded ⟨message, code, status, none⟩

/-- `idempotencyConflict`. -/
def idempotencyConflict (message code : String) : Failure := coded message code 409

def reusedKey : Failure :=
  idempotencyConflict "Idempotency-Key was reused with a different request payload"
    "workspace_create_idempotency_conflict"

def terminalizedKey : Failure :=
  idempotencyConflict
    "The workspace create idempotency binding has been terminalized and cannot be replayed"
    "workspace_create_idempotency_terminalized"

def unusableKey : Failure :=
  idempotencyConflict
    "The workspace create idempotency binding cannot recover its child workspace"
    "workspace_create_idempotency_unusable"

def identifierCollision : Failure :=
  coded "Generated workspace identifier collision" "workspace_id_collision" 500

def workspaceExists : Failure := coded "Workspace already exists" "workspace_exists" 409

/-- The storage is gone: after how many attempts, in which operation, and why. -/
def storageUnavailable (attempts : Option ℕ) (operation storageError : String) : Failure :=
  .coded ⟨"Workspace storage temporarily unavailable", "workspace_storage_unavailable", 503,
    some ⟨attempts, operation, storageError⟩⟩

def deleteUnsupported : Failure :=
  coded "The configured file storage cannot delete workspace objects"
    "file_storage_delete_unsupported" 503

/-! ## Keys -/

/-- `DerivationFamily`. -/
inductive Family
  | legacy
  | ar (tag : String)
  deriving DecidableEq

/-- The credential settings of the handle: whether it mints `ar_` credentials, the current tag of a
workspace, the tags its tagger knows for one, and how secret material becomes a credential, which
is never empty. -/
structure Deployment where
  mintsAr : Bool
  tag : WorkspaceId → String
  tags : WorkspaceId → List String
  credentialFromHex : Family → WorkspaceId → String → Except Failure Token
  nonempty : ∀ {family id hex key}, credentialFromHex family id hex = .ok key → key.isEmpty = false

/-- The family a create derives in. -/
def Deployment.createFamily (d : Deployment) (workspaceId : WorkspaceId) : Family :=
  if d.mintsAr then .ar (d.tag workspaceId) else .legacy

/-- `derivationFamilies`, the current one first. -/
def Deployment.derivationFamilies (d : Deployment) (workspaceId : WorkspaceId) : List Family :=
  let ar := (d.tags workspaceId).map .ar
  if d.mintsAr then ar ++ [.legacy] else .legacy :: ar

/-- What a keyed create is: its binding, and what its key is derived from. -/
structure KeyedCreate where
  key : BindingKey
  requestDigest : Hash
  secret : String
  idempotencyKey : String
  deriving DecidableEq

/-- `workspaceKeyMaterial`. -/
def workspaceKeyMaterial (family : Family) (workspaceId : WorkspaceId)
    (idempotencyKey : String) (requestDigest : Hash) : String :=
  match family with
  | .ar tag => "relaycast:workspace-create:v3:" ++ workspaceId ++ ":" ++ tag ++ ":" ++
      idempotencyKey ++ ":" ++ requestDigest
  | .legacy => "relaycast:workspace-create:v1:" ++ idempotencyKey ++ ":" ++ requestDigest

section Keys

variable (C : Crypto) (d : Deployment) (k : KeyedCreate)

/-- `deriveDeterministicApiKey`. -/
def deriveDeterministicApiKey (workspaceId : WorkspaceId) (family : Family) :
    Except Failure Token :=
  d.credentialFromHex family workspaceId
    (C.hmacSha256Hex (workspaceKeyMaterial family workspaceId k.idempotencyKey k.requestDigest)
      k.secret)

/-- The first of the families whose key is the stored one. -/
def recoverAmong (workspace : WorkspaceRow) : List Family → Except Failure (Option Token)
  | [] => .ok none
  | family :: families =>
    match deriveDeterministicApiKey C d k workspace.id family with
    | .error e => .error e
    | .ok key =>
      if !key.isEmpty && C.sha256Hex key == workspace.apiKeyHash then .ok (some key)
      else recoverAmong workspace families

/-- `recoverDeterministicApiKey`. -/
def recoverDeterministicApiKey (workspace : WorkspaceRow) : Except Failure (Option Token) :=
  recoverAmong C d k workspace (d.derivationFamilies workspace.id)

end Keys

/-! ## Requests -/

/-- `CreateWorkspaceOptions`.  The provenance and the classification are written through and decide
nothing here; of the metadata only whether the schema refuses it does.  A digest is never
empty. -/
structure CreateOptions where
  ownerApiKey : Option String
  ownerApiKeyHash : Option Hash
  workspaceId : Option WorkspaceId
  bootstrapSecret : Option String
  bootstrapSecretProof : Option String
  bootstrapProofRequired : Bool
  idempotencyKey : Option String
  requestDigest : Option Hash
  expiresAt : Option Seconds
  metadataIssue : Option String
  deriving DecidableEq

/-- A string that is there and not empty. -/
def truthy (value : Option String) : Option String := value.filter fun s => !s.isEmpty

/-- `value.length`, in code units. -/
def jsLength (value : String) : ℕ :=
  (value.toList.map fun c => if c.toNat < 0x10000 then 1 else 2).sum

/-- `MIN_BOOTSTRAP_IDEMPOTENCY_KEY_LENGTH`. -/
def MIN_BOOTSTRAP_IDEMPOTENCY_KEY_LENGTH : ℕ := 32

def weakKey : Failure :=
  coded ("Anonymous Idempotency-Key must be at least " ++
      toString MIN_BOOTSTRAP_IDEMPOTENCY_KEY_LENGTH ++ " characters. Generate it with a CSPRNG, " ++
      "such as a v4 UUID, 16 random bytes hex-encoded, or at least 24 random bytes " ++
      "base64url-encoded.")
    "workspace_create_idempotency_key_too_weak" 400

/-- What a request comes to once its options are checked. -/
structure Request where
  name : String
  workspaceId : Option WorkspaceId
  expiresAt : Option Seconds
  ownerApiKey : Option String
  ownerApiKeyHash : Option Hash
  keyed : Option KeyedCreate
  deriving DecidableEq

section Checks

variable (C : Crypto) (o : CreateOptions)

/-- `derivedOwnerApiKeyHash`. -/
def CreateOptions.derivedOwnerApiKeyHash : Option Hash := (truthy o.ownerApiKey).map C.sha256Hex

/-- `ownerApiKeyHash`, where it is not empty. -/
def CreateOptions.ownerScope : Option Hash :=
  truthy (o.ownerApiKeyHash.or (o.derivedOwnerApiKeyHash C))

/-- The binding of a keyed create: an owner's is scoped by the owner's key, an anonymous one by the
key itself. -/
def CreateOptions.keyedBy (idempotencyKey requestDigest : String) : Except Failure KeyedCreate :=
  if (truthy o.ownerApiKey).isSome || (truthy o.ownerApiKeyHash).isSome then
    match truthy o.ownerApiKey with
    | none => .error (coded
        "An authenticated owner API key is required when Idempotency-Key is supplied"
        "workspace_create_idempotency_owner_required" 401)
    | some secret => .ok ⟨⟨(o.ownerScope C).getD "", C.sha256Hex idempotencyKey⟩, requestDigest,
        secret, idempotencyKey⟩
  else if jsLength idempotencyKey < MIN_BOOTSTRAP_IDEMPOTENCY_KEY_LENGTH then .error weakKey
  else
    match truthy o.bootstrapSecret with
    | none => .error (coded
        "Anonymous workspace create idempotency is not configured on this deployment"
        "workspace_create_idempotency_unavailable" 503)
    | some secret =>
      if o.bootstrapProofRequired && truthy o.bootstrapSecretProof != some secret then
        .error (coded
          "A valid workspace bootstrap secret is required for anonymous idempotent workspace creation"
          "workspace_create_bootstrap_secret_invalid" 401)
      else .ok ⟨⟨C.sha256Hex ("bootstrap:" ++ idempotencyKey), C.sha256Hex idempotencyKey⟩,
        requestDigest, secret, idempotencyKey⟩

/-- The checks before any statement. -/
def CreateOptions.checked (name : String) : Except Failure Request :=
  if (truthy o.ownerApiKeyHash).isSome && (o.derivedOwnerApiKeyHash C).isSome &&
      o.ownerApiKeyHash != o.derivedOwnerApiKeyHash C then
    .error (coded "ownerApiKeyHash must match the provided ownerApiKey"
      "invalid_owner_api_key_hash" 400)
  else
    match o.metadataIssue with
    | some issue => .error (coded issue "invalid_metadata" 400)
    | none =>
      match truthy o.idempotencyKey with
      | none => .ok ⟨name, o.workspaceId, o.expiresAt, o.ownerApiKey, o.ownerScope C, none⟩
      | some idempotencyKey =>
        match truthy o.requestDigest with
        | none => .error (coded "A request digest is required for workspace create idempotency"
            "workspace_create_idempotency_digest_required" 400)
        | some requestDigest =>
          match o.keyedBy C idempotencyKey requestDigest with
          | .error e => .error e
          | .ok keyed =>
            .ok ⟨name, o.workspaceId, o.expiresAt, o.ownerApiKey, o.ownerScope C, some keyed⟩

end Checks

/-! ## The pair -/

/-- What a create expects to have written. -/
structure ExpectedPair where
  workspaceId : WorkspaceId
  name : String
  apiKeyHash : Hash
  channelId : ChannelId
  deriving DecidableEq

/-- `isExpectedWorkspacePair`. -/
def isExpectedWorkspacePair (writeResult : WorkspaceWriteResult) (expected : ExpectedPair) :
    Bool :=
  match writeResult.1.head?, writeResult.2.head? with
  | some workspace, some channel =>
    workspace.id == expected.workspaceId && workspace.name == expected.name &&
      workspace.apiKeyHash == expected.apiKeyHash && channel.id == expected.channelId &&
      channel.workspaceId == expected.workspaceId && channel.name == "general"
  | _, _ => false

/-- `CommittedWorkspacePairRead`. -/
inductive PairRead
  | matched (value : WorkspaceWriteResult)
  | mismatched
  | unavailable
  deriving DecidableEq

/-- What the two selects of a pair come to. -/
def pairRead (expected : ExpectedPair) (workspace : Except Failure (Option WorkspaceRow))
    (channel : Except Failure (Option ChannelRow)) : PairRead :=
  match workspace, channel with
  | .ok workspace, .ok channel =>
    let result : WorkspaceWriteResult := (workspace.toList, channel.toList)
    if isExpectedWorkspacePair result expected then .matched result else .mismatched
  | _, _ => .unavailable

/-- `readCommittedWorkspacePair`: the two selects are issued together. -/
def readCommittedWorkspacePair (expected : ExpectedPair) : Program PairRead := do
  let workspaceFirst : Bool ← query .parallel
  match workspaceFirst with
  | true => do
    let workspace ← Throwing.lift (Prog.ask (L := lang) (.workspace expected.workspaceId))
    let channel ← Throwing.lift (Prog.ask (L := lang) (.channel expected.channelId))
    pure (pairRead expected workspace channel)
  | false => do
    let channel ← Throwing.lift (Prog.ask (L := lang) (.channel expected.channelId))
    let workspace ← Throwing.lift (Prog.ask (L := lang) (.workspace expected.workspaceId))
    pure (pairRead expected workspace channel)

/-! ## Retrying -/

/-- What the last attempt throws: a transient failure has exhausted the retries. -/
def Failure.afterLast (maxAttempts : ℕ) (failure : Failure) : Failure :=
  match failure.retryableD1ErrorCode with
  | some code => .retryExhausted maxAttempts code
  | none => failure

/-- `retryD1Write`: the body again after a transient failure, with that many retries left.  What
the body has assigned outside of itself is passed on. -/
def retryD1Write {α ρ : Type} (maxAttempts : ℕ) (write : ρ → Prog lang (Except Failure α × ρ)) :
    ℕ → ρ → Prog lang (Except Failure α × ρ)
  | 0, seen => do
    let (outcome, seen) ← write seen
    pure (outcome.mapError (Failure.afterLast maxAttempts), seen)
  | left + 1, seen => do
    let (outcome, seen) ← write seen
    match outcome with
    | .ok a => pure (.ok a, seen)
    | .error failure =>
      match failure.retryableD1ErrorCode with
      | none => pure (.error failure, seen)
      | some _ => retryD1Write maxAttempts write left seen

/-- The default of `maxAttempts`. -/
def MAX_ATTEMPTS : ℕ := 5

/-! ## Creating -/

/-- What a create returns. -/
structure Created where
  workspaceId : WorkspaceId
  apiKey : Option Token
  createdAt : Seconds
  expiresAt : Option Seconds
  created : Bool
  deriving DecidableEq

/-- `buildWorkspaceResponse`, and whether it was created. -/
def buildWorkspaceResponse (workspace : WorkspaceRow) (apiKey : Option Token) (created : Bool) :
    Created :=
  ⟨workspace.id, truthy apiKey, workspace.createdAt, workspace.expiresAt, created⟩

section Create

variable (C : Crypto) (d : Deployment)

/-- The workspace and the key a binding stands for. -/
def replayBinding (k : KeyedCreate) (binding : BindingRow) : Program (WorkspaceRow × Token) :=
  if binding.requestDigest ≠ k.requestDigest then throw reusedKey
  else
    match binding.status with
    | .terminalized => throw terminalizedKey
    | .active => do
      let existing : Option WorkspaceRow ← query (.workspace binding.workspaceId)
      match existing with
      | none => throw unusableKey
      | some existing => do
        let replayApiKey : Option Token ←
          Throwing.ofExcept (recoverDeterministicApiKey C d k existing)
        match replayApiKey with
        | none => throw unusableKey
        | some replayApiKey => pure (existing, replayApiKey)

/-- `replayedWorkspace`, `replayedApiKey` and `recoveredOwnWorkspace`. -/
structure Recovery where
  workspace : WorkspaceRow
  apiKey : Token
  own : Bool

/-- A unique violation with the binding there: the binding decides. -/
def replayAfterConflict (k : KeyedCreate) (expected : ExpectedPair) (binding : BindingRow)
    (seen : Option Recovery) : Prog lang (Except Failure WorkspaceWriteResult × Option Recovery) := do
  let replayed : Except Failure (WorkspaceRow × Token) ← (replayBinding C d k binding).run
  match replayed with
  | .error e => pure (.error e, seen)
  | .ok (existing, replayApiKey) => do
    let committed : Except Failure PairRead ← (readCommittedWorkspacePair expected).run
    match committed with
    | .error e => pure (.error e, seen)
    | .ok .unavailable =>
      pure (.error (storageUnavailable none "workspace.create" "readback_unavailable"), seen)
    | .ok (.matched _) => do
      let channels : Except Failure (List ChannelRow) ←
        Prog.ask (L := lang) (.channelsOf existing.id)
      pure (channels.map fun rows => ([existing], rows), some ⟨existing, replayApiKey, true⟩)
    | .ok .mismatched => do
      let channels : Except Failure (List ChannelRow) ←
        Prog.ask (L := lang) (.channelsOf existing.id)
      pure (channels.map fun rows => ([existing], rows), some ⟨existing, replayApiKey, false⟩)

/-- A unique violation without a binding: only the exact pair counts as written. -/
def acceptCommittedPair (assignedWorkspaceId : Option WorkspaceId) (expected : ExpectedPair) :
    Program WorkspaceWriteResult := do
  let committed ← readCommittedWorkspacePair expected
  match committed with
  | .matched value => pure value
  | .unavailable => throw (storageUnavailable none "workspace.create" "readback_unavailable")
  | .mismatched =>
    match assignedWorkspaceId with
    | none => throw identifierCollision
    | some id => do
      let holder : Option WorkspaceRow ← query (.workspace id)
      match holder with
      | some _ => throw workspaceExists
      | none => throw identifierCollision

/-- The body that is retried: the batch, and what a unique violation of it means. -/
def writePair (request : Request) (batch : Batch) (expected : ExpectedPair)
    (seen : Option Recovery) :
    Prog lang (Except Failure WorkspaceWriteResult × Option Recovery) := do
  let outcome : Except Failure WorkspaceWriteResult ← Prog.ask (L := lang) (.create batch)
  match outcome with
  | .ok result => pure (.ok result, seen)
  | .error cause =>
    match cause.isUniqueConstraintError, request.keyed with
    | false, _ => pure (.error cause, seen)
    | true, none => do
      let accepted ← (acceptCommittedPair (truthy request.workspaceId) expected).run
      pure (accepted, seen)
    | true, some k => do
      let binding : Except Failure (Option BindingRow) ← Prog.ask (L := lang) (.binding k.key)
      match binding with
      | .error e => pure (.error e, seen)
      | .ok (some binding) => replayAfterConflict C d k expected binding seen
      | .ok none => do
        let accepted ← (acceptCommittedPair (truthy request.workspaceId) expected).run
        pure (accepted, seen)

/-- After the last attempt: the pair may have been written by one whose reply was lost. -/
def settleWrite (expected : ExpectedPair) :
    Except Failure WorkspaceWriteResult → Program WorkspaceWriteResult
  | .ok result => pure result
  | .error (.retryExhausted attempts storageError) => do
    let committed ← readCommittedWorkspacePair expected
    match committed with
    | .matched value => pure value
    | _ => throw (storageUnavailable (some attempts) "workspace.create" storageError.text)
  | .error e => throw e

/-- What is returned in the end. -/
def concludeCreate (expected : ExpectedPair) (apiKey : Token) (result : WorkspaceWriteResult) :
    Option Recovery → Program Created
  | some recovery =>
    pure (buildWorkspaceResponse recovery.workspace (some recovery.apiKey) recovery.own)
  | none =>
    match isExpectedWorkspacePair result expected, result.1.head? with
    | true, some workspace => pure (buildWorkspaceResponse workspace (some apiKey) true)
    | _, _ => throw identifierCollision

/-- The id of the new workspace. -/
def newWorkspaceId : Option WorkspaceId → Program WorkspaceId
  | some id => pure id
  | none => query .generateId

/-- The key of the new workspace: derived under an idempotency key, and else random. -/
def newApiKey (workspaceId : WorkspaceId) : Option KeyedCreate → Program Token
  | some k => Throwing.ofExcept
      (deriveDeterministicApiKey C d k workspaceId (d.createFamily workspaceId))
  | none => query (.issueCredential workspaceId)

/-- Write the new workspace. -/
def createNew (request : Request) : Program Created := do
  let workspaceId ← newWorkspaceId request.workspaceId
  let apiKey ← newApiKey C d workspaceId request.keyed
  let channelId : ChannelId ← query .generateId
  let expected : ExpectedPair := ⟨workspaceId, request.name, C.sha256Hex apiKey, channelId⟩
  let batch : Batch := ⟨workspaceId, request.name, C.sha256Hex apiKey, request.expiresAt, channelId,
    request.keyed.map fun k => (k.key, k.requestDigest)⟩
  let (outcome, recovery) ← Throwing.lift
    (retryD1Write MAX_ATTEMPTS (writePair C d request batch expected) (MAX_ATTEMPTS - 1) none)
  let result ← settleWrite expected outcome
  concludeCreate expected apiKey result recovery

/-- `createWorkspace`. -/
def createWorkspace (name : String) (options : CreateOptions) : Program Created := do
  let request ← Throwing.ofExcept (options.checked C name)
  match request.keyed with
  | some k => do
    let binding : Option BindingRow ← query (.binding k.key)
    match binding with
    | some binding => do
      let (existing, replayApiKey) ← replayBinding C d k binding
      pure (buildWorkspaceResponse existing (some replayApiKey) false)
    | none => createNew C d request
  | none =>
    match request.ownerApiKeyHash with
    | some ownerApiKeyHash => do
      let now : Seconds ← query .newDate
      let existing : Option WorkspaceRow ← query (.ownedWorkspace name ownerApiKeyHash now)
      match existing with
      | some existing => pure (buildWorkspaceResponse existing request.ownerApiKey false)
      | none => createNew C d request
    | none => createNew C d request

end Create

/-! ## Deleting -/

/-- A batch as the body of `retryD1Write`. -/
def writeOnly (q : Stmt) (seen : Unit) : Prog lang (Except Failure q.Value × Unit) := do
  let outcome ← Prog.ask (L := lang) q
  pure (outcome, seen)

/-- `requireDeletableStorage`. -/
def requireDeletableStorage (deletable : Bool) : Program Unit :=
  if deletable then pure () else throw deleteUnsupported

/-- Whether an exhausted delete has committed after all. -/
def settleDelete (ids : List WorkspaceId) : Except Failure Unit → Program Unit
  | .ok () => pure ()
  | .error (.retryExhausted attempts storageError) => do
    let remaining : Except Failure (List WorkspaceId) ←
      Throwing.lift (Prog.ask (L := lang) (.remaining ids))
    match remaining with
    | .ok [] => pure ()
    | .ok _ => throw (storageUnavailable (some attempts) "workspace.delete" storageError.text)
    | .error _ => throw (storageUnavailable (some attempts) "workspace.delete" "readback_unavailable")
  | .error e => throw e

/-- `deleteWorkspaceBatch`; what it revokes in the file storage afterwards is best effort. -/
def deleteWorkspaceBatch (ids : List WorkspaceId) : Program Unit := do
  let (outcome, _) ← Throwing.lift
    (retryD1Write MAX_ATTEMPTS (writeOnly (.deleteWorkspaces ids)) (MAX_ATTEMPTS - 1) ())
  settleDelete ids outcome

/-- `deleteWorkspace`: whether the removal of the rows is deferred. -/
def deleteWorkspace (deletable : Bool) (id : WorkspaceId) : Program Bool := do
  requireDeletableStorage deletable
  let large : Bool ← query (.exceedsAtomicDeleteSize id)
  match large with
  | false => do
    deleteWorkspaceBatch [id]
    pure false
  | true => do
    let now : Seconds ← query .newDate
    let (outcome, _) ← Throwing.lift
      (retryD1Write MAX_ATTEMPTS (writeOnly (.tombstone id now)) (MAX_ATTEMPTS - 1) ())
    let _ ← Throwing.ofExcept outcome
    pure true

/-- `drainWorkspaceRows`, as far as the channels go: the pages its budget allows, and whether
nothing is left. -/
def drainWorkspaceRows (id : WorkspaceId) : ℕ → Program Bool
  | 0 => pure false
  | pages + 1 => do
    let ids : List ChannelId ← query (.channelPage id)
    match ids with
    | [] => query (.restDrained id)
    | _ :: _ => do
      let _ ← query (.deleteChannels ids)
      drainWorkspaceRows id pages

/-- `reapWorkspace`: whether the workspace is gone. -/
def reapWorkspace (deletable : Bool) (id : WorkspaceId) (pages : ℕ) : Program Bool := do
  requireDeletableStorage deletable
  let large : Bool ← query (.exceedsAtomicDeleteSize id)
  match large with
  | false => do
    deleteWorkspaceBatch [id]
    pure true
  | true => do
    let complete ← drainWorkspaceRows id pages
    match complete with
    | false => pure false
    | true => do
      deleteWorkspaceBatch [id]
      pure true

/-! ## The service -/

/-- The calls that are made. -/
inductive Call
  | createWorkspace (d : Deployment) (name : String) (options : CreateOptions)
  | deleteWorkspace (deletable : Bool) (id : WorkspaceId)
  | reapWorkspace (deletable : Bool) (id : WorkspaceId) (pages : ℕ)

/-- What each call returns. -/
abbrev Call.Result : Call → Type
  | .createWorkspace .. => Except Failure Created
  | .deleteWorkspace .. => Except Failure Bool
  | .reapWorkspace .. => Except Failure Bool

/-- The body of each call. -/
def Call.body (C : Crypto) : (c : Call) → Prog lang c.Result
  | .createWorkspace d name options => (Workspace.createWorkspace C d name options).run
  | .deleteWorkspace deletable id => (Workspace.deleteWorkspace deletable id).run
  | .reapWorkspace deletable id pages => (Workspace.reapWorkspace deletable id pages).run

/-- Concurrent creates and deletes, from the given stores. -/
def service (C : Crypto) (init : Store → Prop) : System lang Store Call Call.Result where
  toMachine := machine C
  body := Call.body C
  init := init

end Workspace
