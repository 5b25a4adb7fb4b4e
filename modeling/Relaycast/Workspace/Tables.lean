import Mathlib.Logic.Embedding.Basic
import Relaycast.Interleaving.Throwing
import Relaycast.Relational.Table
import Relaycast.Relational.Timestamp

/-!
# Workspaces, their first channel, and the keys they were created under

Creating a workspace writes its row, its `general` channel and, under an idempotency key, the
binding of that key in one batch.  Ids, stored key digests and the keys of bindings are unique, and
so is the workspace a binding names, which keeps its binding after the workspace is gone.

Every statement can fail, and a batch in two ways: it is refused, or it commits and only its reply
is lost.  Which it is comes from outside; whether a unique index refuses it is decided by the
rows.
-/

namespace Workspace

open Relational Interleaving

abbrev WorkspaceId := String
abbrev ChannelId := String

/-- A raw credential. -/
abbrev Token := String

/-- The digest of a credential, a key or a request, in hex. -/
abbrev Hash := String

/-! ## Rows -/

/-- A row of `workspaces`. -/
structure WorkspaceRow where
  id : WorkspaceId
  name : String
  apiKeyHash : Hash
  createdAt : Seconds
  expiresAt : Option Seconds
  deriving DecidableEq

instance : Keyed WorkspaceRow where
  Key := WorkspaceId × Hash
  key r := (r.id, r.apiKeyHash)
  clash k k' := k.1 == k'.1 || k.2 == k'.2
  clash_comm k k' := by simp only [BEq.comm]

/-- A row of `channels`. -/
structure ChannelRow where
  id : ChannelId
  workspaceId : WorkspaceId
  name : String
  deriving DecidableEq

instance : Keyed ChannelRow where
  Key := ChannelId × WorkspaceId × String
  key r := (r.id, r.workspaceId, r.name)
  clash k k' := k.1 == k'.1 || k.2 == k'.2
  clash_comm k k' := by simp only [BEq.comm]

/-- What a keyed create is bound to: its owner scope and its idempotency key, in digest. -/
structure BindingKey where
  ownerScopeHash : Hash
  idempotencyKeyHash : Hash
  deriving DecidableEq

inductive BindingStatus
  | active
  | terminalized
  deriving DecidableEq

/-- A row of `workspace_create_idempotency`. -/
structure BindingRow where
  key : BindingKey
  requestDigest : Hash
  workspaceId : WorkspaceId
  status : BindingStatus
  terminalizedAt : Option Seconds
  deriving DecidableEq

instance : Keyed BindingRow where
  Key := BindingKey × WorkspaceId
  key r := (r.key, r.workspaceId)
  clash k k' := k.1 == k'.1 || k.2 == k'.2
  clash_comm k k' := by simp only [BEq.comm]

/-! ## Failures -/

/-- `RETRYABLE_D1_ERRORS`. -/
inductive RetryableD1ErrorCode
  | networkConnectionLost
  | codeUpdateReset
  | startupStorageReset
  | storageReset
  | remoteNodeTransient
  | clientDisconnected
  | queueTimeout
  | queueFull
  deriving DecidableEq

/-- The code as it is reported. -/
def RetryableD1ErrorCode.text : RetryableD1ErrorCode → String
  | .networkConnectionLost => "network_connection_lost"
  | .codeUpdateReset => "code_update_reset"
  | .startupStorageReset => "startup_storage_reset"
  | .storageReset => "storage_reset"
  | .remoteNodeTransient => "remote_node_transient"
  | .clientDisconnected => "client_disconnected"
  | .queueTimeout => "queue_timeout"
  | .queueFull => "queue_full"

/-- What the driver throws where no index refuses the statement. -/
inductive StorageError
  | retryable (code : RetryableD1ErrorCode)
  | other
  deriving DecidableEq

/-- `error.diagnostics`. -/
structure Diagnostics where
  attempts : Option ℕ
  operation : String
  storageError : String
  deriving DecidableEq

/-- `codedError`. -/
structure CodedError where
  message : String
  code : String
  status : ℕ
  diagnostics : Option Diagnostics
  deriving DecidableEq

/-- What a function can throw. -/
inductive Failure
  | uniqueConstraint
  | storage (cause : StorageError)
  | retryExhausted (attempts : ℕ) (storageError : RetryableD1ErrorCode)
  | error (message : String)
  | coded (e : CodedError)
  deriving DecidableEq

/-- `isUniqueConstraintError`. -/
def Failure.isUniqueConstraintError : Failure → Bool
  | .uniqueConstraint => true
  | _ => false

/-- `retryableD1ErrorCode`. -/
def Failure.retryableD1ErrorCode : Failure → Option RetryableD1ErrorCode
  | .storage (.retryable code) => some code
  | _ => none

/-- How a batch comes out: it commits, it is lost before it reaches the database, or it commits
and its reply is lost. -/
inductive Fate
  | commits
  | fails (cause : StorageError)
  | loses (cause : StorageError)
  deriving DecidableEq

/-! ## The store -/

/-- The three tables, and how many ids were generated. -/
structure Store where
  workspaces : Table WorkspaceRow
  channels : Table ChannelRow
  bindings : Table BindingRow
  generated : ℕ

/-- The rows of a create, but for the times the database stamps. -/
structure Batch where
  workspaceId : WorkspaceId
  name : String
  apiKeyHash : Hash
  expiresAt : Option Seconds
  channelId : ChannelId
  binding : Option (BindingKey × Hash)
  deriving DecidableEq

namespace Batch

variable (b : Batch)

/-- The row of `workspaces`. -/
def workspaceRow (createdAt : Seconds) : WorkspaceRow :=
  ⟨b.workspaceId, b.name, b.apiKeyHash, createdAt, b.expiresAt⟩

/-- The row of `channels`. -/
def channelRow : ChannelRow := ⟨b.channelId, b.workspaceId, "general"⟩

/-- The row of `workspace_create_idempotency`, for a keyed create. -/
def bindingRow : Option BindingRow :=
  b.binding.map fun (key, requestDigest) => ⟨key, requestDigest, b.workspaceId, .active, none⟩

/-- Does a unique index refuse one of the rows? -/
def conflicts (createdAt : Seconds) (s : Store) : Bool :=
  s.workspaces.conflicts (b.workspaceRow createdAt) || s.channels.conflicts b.channelRow ||
    b.bindingRow.any s.bindings.conflicts

end Batch

/-- `[Array<workspaces>, Array<channels>]`. -/
abbrev WorkspaceWriteResult := List WorkspaceRow × List ChannelRow

/-- The cryptography and the id generator, which gives out each id once. -/
structure Crypto where
  sha256Hex : String → Hash
  hmacSha256Hex : String → String → String
  generateId : ℕ ↪ String

/-! ## Statements -/

/-- The statements; `parallel` asks which of two selects issued together is answered first. -/
inductive Stmt
  | generateId
  | issueCredential (workspaceId : WorkspaceId)
  | newDate
  | parallel
  | binding (key : BindingKey)
  | workspace (id : WorkspaceId)
  | ownedWorkspace (name : String) (apiKeyHash : Hash) (now : Seconds)
  | channel (id : ChannelId)
  | channelsOf (workspaceId : WorkspaceId)
  | create (batch : Batch)
  | exceedsAtomicDeleteSize (id : WorkspaceId)
  | tombstone (id : WorkspaceId) (now : Seconds)
  | deleteWorkspaces (ids : List WorkspaceId)
  | remaining (ids : List WorkspaceId)
  | channelPage (id : WorkspaceId)
  | deleteChannels (ids : List ChannelId)
  | restDrained (id : WorkspaceId)
  deriving DecidableEq

/-- What the outside world contributes: a random credential, a clock reading, an order, how a read
or a batch comes out, the size of a workspace, which channels a page lists, and whether the other
tables of a workspace are empty. -/
def Stmt.Answer : Stmt → Type
  | .generateId => Unit
  | .issueCredential _ => Token
  | .newDate => Seconds
  | .parallel => Bool
  | .create _ | .deleteWorkspaces _ => Fate × Seconds
  | .tombstone .. | .deleteChannels _ => Fate
  | .exceedsAtomicDeleteSize _ | .restDrained _ => Option StorageError × Bool
  | .channelPage _ => Option StorageError × List ChannelId
  | _ => Option StorageError

/-- What each statement gives when it does not fail. -/
def Stmt.Value : Stmt → Type
  | .generateId => String
  | .issueCredential _ => Token
  | .newDate => Seconds
  | .parallel => Bool
  | .binding _ => Option BindingRow
  | .workspace _ | .ownedWorkspace .. => Option WorkspaceRow
  | .channel _ => Option ChannelRow
  | .channelsOf _ => List ChannelRow
  | .create _ => WorkspaceWriteResult
  | .exceedsAtomicDeleteSize _ | .restDrained _ => Bool
  | .tombstone .. | .deleteWorkspaces .. | .deleteChannels _ => Unit
  | .remaining _ => List WorkspaceId
  | .channelPage _ => List ChannelId

/-- The language of workspaces. -/
abbrev lang : Language where
  Stmt := Stmt
  Answer := Stmt.Answer
  Reply q := Except Failure q.Value

/-- A function that can throw. -/
abbrev Program : Type → Type := Throwing lang Failure

/-- Issue one statement, and throw what it replies if it fails. -/
def query (q : Stmt) : Program q.Value := ExceptT.mk (Prog.ask (L := lang) q)

namespace Store

variable (s : Store)

def binding? (key : BindingKey) : Option BindingRow := s.bindings.rows.find? (·.key == key)

def workspace? (id : WorkspaceId) : Option WorkspaceRow := s.workspaces.rows.find? (·.id == id)

def channel? (id : ChannelId) : Option ChannelRow := s.channels.rows.find? (·.id == id)

/-- The batch of a create, which no index refuses. -/
def create (b : Batch) (createdAt : Seconds) : Store where
  workspaces := s.workspaces.insertOrIgnore (b.workspaceRow createdAt)
  channels := s.channels.insertOrIgnore b.channelRow
  bindings := b.bindingRow.elim s.bindings s.bindings.insertOrIgnore
  generated := s.generated

/-- `SET status = 'terminalized', terminalized_at = now`. -/
def terminalize (now : Seconds) (r : BindingRow) : BindingRow :=
  { r with status := .terminalized, terminalizedAt := some now }

/-- `SET expires_at = now`. -/
def expire (now : Seconds) (r : WorkspaceRow) : WorkspaceRow := { r with expiresAt := some now }

/-- The batch of a deferred delete: the deadline is pulled forward, never pushed back. -/
def tombstone (id : WorkspaceId) (now : Seconds) : Store :=
  { s with
    workspaces := s.workspaces.update
      (fun r => r.id == id && r.expiresAt.all fun expiresAt => decide (now < expiresAt))
      (expire now) fun _ => rfl
    bindings := s.bindings.update (·.workspaceId == id) (terminalize now) fun _ => rfl }

/-- The batch of an atomic delete: the channels go with their workspace. -/
def deleteWorkspaces (ids : List WorkspaceId) (now : Seconds) : Store :=
  { s with
    workspaces := s.workspaces.deleteWhere fun r => decide (r.id ∈ ids)
    channels := s.channels.deleteWhere fun r => decide (r.workspaceId ∈ ids)
    bindings := s.bindings.update (fun r => decide (r.workspaceId ∈ ids)) (terminalize now)
      fun _ => rfl }

end Store

/-- A read, answered unless the storage fails. -/
def read {α : Type} (fault : Option StorageError) (value : α) : Except Failure α :=
  match fault with
  | some cause => .error (.storage cause)
  | none => .ok value

/-- A batch that no index refuses. -/
def commit (fate : Fate) (s s' : Store) : Except Failure Unit × Store :=
  match fate with
  | .commits => (.ok (), s')
  | .fails cause => (.error (.storage cause), s)
  | .loses cause => (.error (.storage cause), s')

/-- The batch of a create. -/
def runCreate (b : Batch) (fate : Fate) (createdAt : Seconds) (s : Store) :
    Except Failure WorkspaceWriteResult × Store :=
  let committed := if b.conflicts createdAt s then s else s.create b createdAt
  match fate with
  | .commits =>
    if b.conflicts createdAt s then (.error .uniqueConstraint, s)
    else (.ok ([b.workspaceRow createdAt], [b.channelRow]), committed)
  | .fails cause => (.error (.storage cause), s)
  | .loses cause => (.error (.storage cause), committed)

/-- Execute one statement. -/
def run (C : Crypto) : (q : Stmt) → q.Answer → Store → Except Failure q.Value × Store
  | .generateId, _, s => (.ok (C.generateId s.generated), { s with generated := s.generated + 1 })
  | .issueCredential _, (token : Token), s => (.ok token, s)
  | .newDate, (now : Seconds), s => (.ok now, s)
  | .parallel, (first : Bool), s => (.ok first, s)
  | .binding key, (fault : Option StorageError), s => (read fault (s.binding? key), s)
  | .workspace id, (fault : Option StorageError), s => (read fault (s.workspace? id), s)
  | .ownedWorkspace name apiKeyHash now, (fault : Option StorageError), s =>
    (read fault (s.workspaces.rows.find? fun r => r.name == name && r.apiKeyHash == apiKeyHash &&
      r.expiresAt.all fun expiresAt => decide (now < expiresAt)), s)
  | .channel id, (fault : Option StorageError), s => (read fault (s.channel? id), s)
  | .channelsOf workspaceId, (fault : Option StorageError), s =>
    (read fault (s.channels.select (·.workspaceId == workspaceId)), s)
  | .create batch, (answer : Fate × Seconds), s => runCreate batch answer.1 answer.2 s
  | .exceedsAtomicDeleteSize _, (answer : Option StorageError × Bool), s =>
    (read answer.1 answer.2, s)
  | .tombstone id now, (fate : Fate), s => commit fate s (s.tombstone id now)
  | .deleteWorkspaces ids, (answer : Fate × Seconds), s =>
    commit answer.1 s (s.deleteWorkspaces ids answer.2)
  | .remaining ids, (fault : Option StorageError), s =>
    (read fault ((s.workspaces.select fun r => decide (r.id ∈ ids)).map (·.id)), s)
  | .channelPage id, (answer : Option StorageError × List ChannelId), s =>
    (read answer.1 (((s.channels.select (·.workspaceId == id)).map (·.id)).filter
      fun channelId => decide (channelId ∈ answer.2)), s)
  | .deleteChannels ids, (fate : Fate), s =>
    commit fate s { s with channels := s.channels.deleteWhere fun r => decide (r.id ∈ ids) }
  | .restDrained _, (answer : Option StorageError × Bool), s => (read answer.1 answer.2, s)

/-- The machine of workspaces. -/
def machine (C : Crypto) : Machine lang Store where
  run := run C
  Drift := Unit
  drift _ s := s

end Workspace
