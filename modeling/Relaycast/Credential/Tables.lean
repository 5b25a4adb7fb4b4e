import Mathlib.Logic.Function.Basic
import Relaycast.Interleaving.Run
import Relaycast.Relational.Table
import Relaycast.Relational.Timestamp

/-!
# Credentials and the tables they are kept in

A credential is stored as its digest: the key of a workspace in a slot of the workspace, beside a
slot for the key it superseded, which counts until it expires; the tokens of agents, nodes,
observers and webhooks in a column of theirs.  A legacy credential that was upgraded to the newer
family is kept in `credential_upgrades` with the credential it became, sealed, and counts there for
a while as well.

Writers agree on the key of a workspace through its generation, and a workspace that is being
deleted is fenced in the memory of the process.  The statements here are the reads and the guarded
writes of the functions that push, rotate and upgrade credentials; the check of the deletion fence
that stands right before a write is part of the write.
-/

namespace Credential

open Relational Interleaving

abbrev WorkspaceId := String
abbrev PrincipalId := String

/-- A raw credential. -/
abbrev Key := String

/-- The digest of a credential, in hex. -/
abbrev Hash := String

/-! ## Tables -/

/-- `CredentialKind`. -/
inductive Kind
  | workspace
  | agent
  | node
  | observer
  | webhook
  deriving DecidableEq

/-- A row of `workspaces`. -/
structure Workspace where
  id : WorkspaceId
  apiKeyHash : Hash
  previousApiKeyHash : Option Hash
  previousApiKeyExpiresAt : Option Seconds
  apiKeyGeneration : ℕ
  deriving DecidableEq

instance : Keyed Workspace where
  Key := WorkspaceId
  key w := w.id
  clash k k' := k == k'
  clash_comm _ _ := BEq.comm

/-- A row of `agents`, `nodes`, `observer_tokens` or `webhooks`. -/
structure Principal where
  kind : Kind
  id : PrincipalId
  workspaceId : WorkspaceId
  tokenHash : Option Hash
  deriving DecidableEq

instance : Keyed Principal where
  Key := Kind × PrincipalId
  key p := (p.kind, p.id)
  clash k k' := k == k'
  clash_comm _ _ := BEq.comm

/-- A row of `credential_upgrades`. -/
structure GraceRecord where
  legacyHash : Hash
  kind : Kind
  principalId : PrincipalId
  workspaceId : WorkspaceId
  arHash : Hash
  sealedCredential : String
  expiresAt : Seconds
  deriving DecidableEq

instance : Keyed GraceRecord where
  Key := Hash
  key r := r.legacyHash
  clash k k' := k == k'
  clash_comm _ _ := BEq.comm

/-- `InternalDeletionState`; an id without an entry is at zero. -/
structure DeletionState where
  active : ℕ
  tombstoned : Bool
  deriving DecidableEq

/-- Has the map of fences an entry for the id? -/
def DeletionState.present (d : DeletionState) : Bool := decide (0 < d.active) || d.tombstoned

/-- The tables, the deletion fences, the clock, and how many credentials were minted. -/
structure Store where
  workspaces : Table Workspace
  principals : Table Principal
  upgrades : Table GraceRecord
  fences : WorkspaceId → DeletionState
  now : Millis
  minted : ℕ

/-- The cryptography: the digest, the credentials that are minted one after the other, and the
sealing of one credential under another. -/
structure Crypto where
  sha256Hex : Key → Hash
  mintKey : ℕ → Key
  sealCredential : String → Key → Key → Hash → String
  unsealCredential : String → Key → Hash → Key

namespace Store

variable (s : Store)

/-- `SELECT … FROM workspaces WHERE id = ?`. -/
def workspace? (id : WorkspaceId) : Option Workspace := s.workspaces.rows.find? (·.id == id)

/-- `SELECT … FROM credential_upgrades WHERE legacy_hash = ?`. -/
def record? (legacyHash : Hash) : Option GraceRecord :=
  s.upgrades.rows.find? (·.legacyHash == legacyHash)

/-- The principal of another kind than `workspace`. -/
def principal? (kind : Kind) (id : PrincipalId) : Option Principal :=
  s.principals.rows.find? fun p => p.kind == kind && p.id == id

/-- `current?.hash`: what the hash column of a principal holds, if it is there. -/
def principalHash (kind : Kind) (id : PrincipalId) : Option Hash :=
  match kind with
  | .workspace => (s.workspace? id).map (·.apiKeyHash)
  | kind => (s.principal? kind id).bind (·.tokenHash)

/-- `UPDATE workspaces SET f WHERE p`. -/
def updateWorkspaces (p : Workspace → Bool) (f : Workspace → Workspace)
    (hf : ∀ w, (f w).id = w.id) : Store :=
  { s with workspaces := s.workspaces.update p f hf }

/-- Is the hash the current key of some workspace but `id`? -/
def hashTaken (hash : Hash) (id : WorkspaceId) : Bool :=
  s.workspaces.rows.any fun w => w.id != id && w.apiKeyHash == hash

end Store

/-- `gt(previous_api_key_expires_at, now)`. -/
def Workspace.inGrace (w : Workspace) (now : Millis) : Bool :=
  w.previousApiKeyExpiresAt.any fun expires => decide (toSeconds now < expires)

/-- Does the hash match the current slot, or the previous one in its grace? -/
def Workspace.holds (w : Workspace) (now : Millis) (hash : Hash) : Bool :=
  w.apiKeyHash == hash || (w.previousApiKeyHash == some hash && w.inGrace now)

/-- `gt(expires_at, now)`. -/
def GraceRecord.unexpired (r : GraceRecord) (now : Millis) : Bool :=
  decide (toSeconds now < r.expiresAt)

/-- `liveElsewhereQuery`: does another workspace hold the key? -/
def Store.liveElsewhere (s : Store) (hash : Hash) (id : WorkspaceId) : Bool :=
  s.workspaces.rows.any fun w => w.id != id && w.holds s.now hash

/-! ## Statements -/

/-- How the batch that creates a workspace comes out. -/
inductive CreateOutcome
  | fenced
  | created
  | keyGuard
  | uniqueViolation
  deriving DecidableEq

/-- How a guarded update comes out. -/
inductive WriteOutcome
  | fenced
  | missed
  | applied
  deriving DecidableEq

/-- `KeyRow`. -/
structure KeyRow where
  id : WorkspaceId
  apiKeyHash : Hash
  apiKeyGeneration : ℕ
  deriving DecidableEq

/-- What the batch of an upgrade writes. -/
structure Upgrade where
  kind : Kind
  principalId : PrincipalId
  workspaceId : WorkspaceId
  legacyHash : Hash
  arHash : Hash
  sealedCredential : String
  expiresAt : Seconds

/-- The record an upgrade leaves. -/
def Upgrade.record (u : Upgrade) : GraceRecord :=
  ⟨u.legacyHash, u.kind, u.principalId, u.workspaceId, u.arHash, u.sealedCredential, u.expiresAt⟩

/-- The statements. -/
inductive Stmt
  | assertWritable (id : WorkspaceId)
  | issueCredential
  | sha256Hex (key : Key)
  | readKeyRow (id : WorkspaceId)
  | keyOwnedElsewhere (hash : Hash) (id : WorkspaceId)
  | createWorkspace (id : WorkspaceId) (hash : Hash) (generation : ℕ)
  | bumpGeneration (id : WorkspaceId) (hash : Hash) (generation : ℕ)
  | changeKey (id : WorkspaceId) (oldHash hash : Hash)
  | changeKeyFenced (id : WorkspaceId) (oldHash hash : Hash) (generation : ℕ) (grace : Millis)
  | rotateKey (id : WorkspaceId) (hash : Hash) (grace : Millis)
  | rotatePrincipal (kind : Kind) (id : PrincipalId) (hash : Hash)
  | readRecord (legacyHash : Hash)
  | readLiveRecord (kind : Kind) (legacyHash : Hash)
  | principalHash (kind : Kind) (id : PrincipalId)
  | dateNow
  | sealCredential (credential legacyToken : Key) (legacyHash : Hash)
  | swapAndRecord (u : Upgrade)
  | beginDeletion (id : WorkspaceId)
  | deleteWorkspace (id : WorkspaceId)
  | commitDeletion (id : WorkspaceId)
  | releaseDeletion (id : WorkspaceId)

/-- How `deleteWorkspace` ends: a large workspace is left to the reaper, and a storage that fails
may have committed all the same. -/
structure DeletionEnd where
  gone : Bool
  succeeded : Bool
  deriving DecidableEq

/-- What the outside world contributes: the initialization vector of a sealing, and how the deletion
of the files and rows of a workspace ends. -/
def Stmt.Answer : Stmt → Type
  | .sealCredential .. => String
  | .deleteWorkspace _ => DeletionEnd
  | _ => Unit

/-- What each statement replies. -/
def Stmt.Reply : Stmt → Type
  | .assertWritable _ | .keyOwnedElsewhere .. | .rotateKey .. | .rotatePrincipal .. => Bool
  | .swapAndRecord _ | .deleteWorkspace _ => Bool
  | .issueCredential => Key
  | .sha256Hex _ => Hash
  | .readKeyRow _ => Option KeyRow
  | .createWorkspace .. => CreateOutcome
  | .bumpGeneration .. | .changeKey .. | .changeKeyFenced .. => WriteOutcome
  | .readRecord _ | .readLiveRecord .. => Option GraceRecord
  | .principalHash .. => Option Hash
  | .dateNow => Millis
  | .sealCredential .. => String
  | .beginDeletion _ | .commitDeletion _ | .releaseDeletion _ => Unit

/-- The language of the credentials. -/
abbrev lang : Language where
  Stmt := Stmt
  Answer := Stmt.Answer
  Reply := Stmt.Reply

/-- Issue one statement and return its reply. -/
abbrev await (q : Stmt) : Prog lang q.Reply := Prog.ask (L := lang) q

namespace Store

variable (s : Store)

/-- The deletion fence of the id is up. -/
def fenced (id : WorkspaceId) : Bool := (s.fences id).present

/-- `INSERT INTO workspaces` with its `#general` channel, whose workspace is `NULL` if another
workspace holds the key. -/
def createWorkspace (id : WorkspaceId) (hash : Hash) (generation : ℕ) : CreateOutcome × Store :=
  if s.fenced id then (.fenced, s)
  else if (s.workspace? id).isSome || s.hashTaken hash id then (.uniqueViolation, s)
  else if s.liveElsewhere hash id then (.keyGuard, s)
  else
    (.created, { s with
      workspaces := s.workspaces.insertOrIgnore ⟨id, hash, none, none, generation⟩ })

/-- A guarded update of the workspace `id`: fenced, or missed if the row does not pass. -/
def guardedUpdate (id : WorkspaceId) (p : Workspace → Bool) (f : Workspace → Workspace)
    (hf : ∀ w, (f w).id = w.id) : WriteOutcome × Store :=
  if s.fenced id then (.fenced, s)
  else if (s.workspace? id).any p then (.applied, s.updateWorkspaces (·.id == id) f hf)
  else (.missed, s)

/-- A re-push of the live key bumps its generation. -/
def bumpGeneration (id : WorkspaceId) (hash : Hash) (generation : ℕ) : WriteOutcome × Store :=
  s.guardedUpdate id
    (fun w => w.apiKeyHash == hash && decide (w.apiKeyGeneration < generation))
    (fun w => { w with apiKeyGeneration := generation }) fun _ => rfl

/-- A change of the key without a generation. -/
def changeKey (id : WorkspaceId) (oldHash hash : Hash) : WriteOutcome × Store :=
  s.guardedUpdate id
    (fun w => w.apiKeyHash == oldHash && w.apiKeyGeneration == 0 && !s.liveElsewhere hash id)
    (fun w => { w with apiKeyHash := hash }) fun _ => rfl

/-- `previousExpiresAt`: none for a zero grace. -/
def graceEnd (grace : Millis) : Option Seconds :=
  if grace = 0 then none else some (toSeconds (s.now + grace))

/-- A change of the key under a generation: the old one goes to the previous slot. -/
def changeKeyFenced (id : WorkspaceId) (oldHash hash : Hash) (generation : ℕ) (grace : Millis) :
    WriteOutcome × Store :=
  s.guardedUpdate id
    (fun w => w.apiKeyHash == oldHash && decide (w.apiKeyGeneration < generation) &&
      !s.liveElsewhere hash id)
    (fun w => { w with
      apiKeyHash := hash
      apiKeyGeneration := generation
      previousApiKeyHash := some oldHash
      previousApiKeyExpiresAt := s.graceEnd grace }) fun _ => rfl

/-- The update of a rotation, guarded by nothing but the uniqueness of the current keys. -/
def rotateKey (id : WorkspaceId) (hash : Hash) (grace : Millis) : Bool × Store :=
  if (s.workspace? id).isSome && s.hashTaken hash id then (false, s)
  else
    (true, s.updateWorkspaces (·.id == id)
      (fun w => { w with
        previousApiKeyHash := some w.apiKeyHash
        previousApiKeyExpiresAt := s.graceEnd grace
        apiKeyHash := hash
        apiKeyGeneration := w.apiKeyGeneration + 1 }) fun _ => rfl)

/-- Set the token hash of the principals that pass `p`. -/
def setTokenHash (p : Principal → Bool) (hash : Hash) : Store :=
  { s with
    principals := s.principals.update p (fun q => { q with tokenHash := some hash }) fun _ => rfl }

/-- Is the hash in the hash column of another principal of the kind?  The column of webhooks is not
unique. -/
def principalHashTaken (kind : Kind) (id : PrincipalId) (hash : Hash) : Bool :=
  match kind with
  | .workspace => s.hashTaken hash id
  | .webhook => false
  | kind => s.principals.rows.any fun q => q.kind == kind && q.id != id && q.tokenHash == some hash

/-- The update of the rotation of a token. -/
def rotatePrincipal (kind : Kind) (id : PrincipalId) (hash : Hash) : Bool × Store :=
  if s.principalHashTaken kind id hash then (false, s)
  else (true, s.setTokenHash (fun q => q.kind == kind && q.id == id) hash)

/-- `swapPrincipalHash`: a compare-and-set from the legacy hash. -/
def swapPrincipalHash (u : Upgrade) : Store :=
  match u.kind with
  | .workspace =>
    s.updateWorkspaces (fun w => w.id == u.principalId && w.apiKeyHash == u.legacyHash)
      (fun w => { w with apiKeyHash := u.arHash }) fun _ => rfl
  | kind =>
    s.setTokenHash
      (fun q => q.kind == kind && q.id == u.principalId && q.tokenHash == some u.legacyHash)
      u.arHash

/-- `graceRecordAfterSwap`: the record is inserted only if the principal now holds the new
credential and no record for the legacy one exists. -/
def graceRecordAfterSwap (u : Upgrade) : Store :=
  if s.principalHash u.kind u.principalId == some u.arHash then
    { s with upgrades := s.upgrades.insertOrIgnore u.record }
  else s

/-- The batch of an upgrade. -/
def swapAndRecord (u : Upgrade) : Bool × Store :=
  if s.principalHash u.kind u.principalId == some u.legacyHash &&
      s.principalHashTaken u.kind u.principalId u.arHash then (false, s)
  else (true, (s.swapPrincipalHash u).graceRecordAfterSwap u)

/-- Change the deletion state of an id. -/
def setFence (id : WorkspaceId) (d : DeletionState) : Store :=
  { s with fences := Function.update s.fences id d }

/-- `beginInternalWorkspaceDeletion`. -/
def beginDeletion (id : WorkspaceId) : Store :=
  s.setFence id { s.fences id with active := (s.fences id).active + 1 }

/-- `settle`, of a fence that was begun. -/
def settleDeletion (id : WorkspaceId) (committed : Bool) : Store :=
  s.setFence id ⟨(s.fences id).active - 1, (s.fences id).tombstoned || committed⟩

/-- The rows of a workspace go, and its records with them. -/
def deleteWorkspace (id : WorkspaceId) : Store :=
  { s with
    workspaces := s.workspaces.deleteWhere (·.id == id)
    principals := s.principals.deleteWhere (·.workspaceId == id)
    upgrades := s.upgrades.deleteWhere (·.workspaceId == id) }

end Store

/-- Execute one statement. -/
def run (C : Crypto) : (q : Stmt) → q.Answer → Store → q.Reply × Store
  | .assertWritable id, _, s => (!s.fenced id, s)
  | .issueCredential, _, s => (C.mintKey s.minted, { s with minted := s.minted + 1 })
  | .sha256Hex key, _, s => (C.sha256Hex key, s)
  | .readKeyRow id, _, s =>
    ((s.workspace? id).map fun w => ⟨w.id, w.apiKeyHash, w.apiKeyGeneration⟩, s)
  | .keyOwnedElsewhere hash id, _, s => (s.liveElsewhere hash id, s)
  | .createWorkspace id hash generation, _, s => s.createWorkspace id hash generation
  | .bumpGeneration id hash generation, _, s => s.bumpGeneration id hash generation
  | .changeKey id oldHash hash, _, s => s.changeKey id oldHash hash
  | .changeKeyFenced id oldHash hash generation grace, _, s =>
    s.changeKeyFenced id oldHash hash generation grace
  | .rotateKey id hash grace, _, s => s.rotateKey id hash grace
  | .rotatePrincipal kind id hash, _, s => s.rotatePrincipal kind id hash
  | .readRecord legacyHash, _, s => (s.record? legacyHash, s)
  | .readLiveRecord kind legacyHash, _, s =>
    ((s.record? legacyHash).filter fun r => r.kind == kind && r.unexpired s.now, s)
  | .principalHash kind id, _, s => (s.principalHash kind id, s)
  | .dateNow, _, s => (s.now, s)
  | .sealCredential credential token legacyHash, (iv : String), s =>
    (C.sealCredential iv credential token legacyHash, s)
  | .swapAndRecord u, _, s => s.swapAndRecord u
  | .beginDeletion id, _, s => ((), s.beginDeletion id)
  | .deleteWorkspace id, (deletion : DeletionEnd), s =>
    (deletion.succeeded, if deletion.gone then s.deleteWorkspace id else s)
  | .commitDeletion id, _, s => ((), s.settleDeletion id true)
  | .releaseDeletion id, _, s => ((), s.settleDeletion id false)

/-- The machine of the credentials; the clock advances between statements. -/
def machine (C : Crypto) : Machine lang Store where
  run := run C
  Drift := Millis
  drift elapsed s := { s with now := s.now + elapsed }

end Credential
