import Relaycast.Grant.Wire
import Relaycast.Observer.Token
import Relaycast.Reactive.Run
import Relaycast.Relational.Timestamp

/-!
# The sockets of an actor

The registry of an actor knows its sockets by their ids, in memory and in a table.  The memory is
lost whenever the actor sleeps, and the writes of a call that fails are rolled back; the sockets
themselves are held by the control plane, and outlive both.  So every call begins by reconciling the
registry with the connections that the control plane holds: a socket that has a row is attached
again if its principal is still good, one that nothing accounts for is closed, and one that is gone
is torn down.

A socket that connects must carry a grant.  Calls of one actor run one at a time.  What the registry
of nodes says of a connection is part of a call, as the calls' other circumstances are.
-/

namespace Grant

open Script Relational Reactive

abbrev SocketId := String

/-! ## The database -/

/-- A row of `observer_tokens`. -/
structure ObserverTokenRow where
  id : String
  workspaceId : String
  active : Bool
  expiresAt : Option Seconds
  scopes : List String
  deriving DecidableEq

/-- What authenticates a principal: the workspaces with their expiry, the nodes of a workspace, and
the observer tokens. -/
structure Database where
  workspaces : List (String × Option Seconds)
  nodes : List (String × String)
  observerTokens : List ObserverTokenRow

/-- The clock as the expiry of the workspace is checked, and as the token is looked up. -/
structure Readings where
  workspace : Millis
  token : Millis

namespace Database

variable (db : Database)

/-- `getWorkspaceExpiry`, and not `isWorkspaceExpired`. -/
def workspaceAvailable (now : Millis) (workspaceId : String) : Bool :=
  (db.workspaces.find? (·.1 == workspaceId)).any fun row =>
    !row.2.any fun expiresAt => decide (toDate expiresAt ≤ now)

/-- `loadActiveObserverToken`, and `hasObserverScope` of the stream. -/
def tokenUsable (now : Millis) (workspaceId tokenId : String) : Bool :=
  (db.observerTokens.find? fun row => row.workspaceId == workspaceId && row.id == tokenId &&
      row.active && row.expiresAt.all fun expiresAt => decide (toSeconds now < expiresAt)).any
    fun row => (Observer.publicScopes row.scopes).contains .streamRead

/-- Why a principal is refused, if it is. -/
def refusal (readings : Readings) (identity : Identity) : Option String :=
  if !db.workspaceAvailable readings.workspace identity.workspaceId then
    some "workspace unavailable"
  else
    match identity with
    | .node workspaceId nodeId =>
      if db.nodes.contains (workspaceId, nodeId) then none else some "unknown node"
    | .observer workspaceId tokenId =>
      if db.tokenUsable readings.token workspaceId tokenId then none
      else some "observer token unusable"

end Database

/-! ## The registry -/

/-- `ACTOR_RESTARTED_CLOSE_CODE`. -/
def ACTOR_RESTARTED_CLOSE_CODE : ℕ := 4012

/-- `INVALID_PRINCIPAL_CLOSE_CODE`. -/
def INVALID_PRINCIPAL_CLOSE_CODE : ℕ := 4400

/-- `UNAUTHORIZED_CLOSE_CODE`. -/
def UNAUTHORIZED_CLOSE_CODE : ℕ := 4401

/-- `ActorSocketRow`, as far as the reconciliation reads it. -/
structure ActorSocketRow where
  socketId : SocketId
  identity : Identity
  providerName : Option String
  attachedAt : Millis
  deriving DecidableEq

/-- What a call does besides: grants, checks and admissions of sockets, what is closed or torn down,
and frames that reach the registry of nodes. -/
inductive Effect
  | granted (p : SignedSocketPrincipal)
  | checked (p : SocketPrincipal) (now : Millis)
  | admitted (socketId : SocketId) (p : SocketPrincipal) (now : Millis)
  | rejected (socketId : SocketId) (code : ℕ) (reason : String)
  | closed (socketId : SocketId) (code : ℕ)
  | tornDown (socketId : SocketId)
  | handled (socketId : SocketId)
  | restarted
  deriving DecidableEq

/-- `ActorRealtime`: the memory of the actor, its table, and what has happened, the latest first. -/
structure ActorRealtime where
  attached : Dict Identity
  superseded : Dict Identity
  table : List ActorSocketRow
  live : List SocketId
  replayed : Bool
  usedNonces : Dict ℕ
  log : List Effect

/-- What an actor is made with. -/
structure Options where
  workspaceId : String
  grantSecret : String
  hmacSha256 : Hmac

/-- The phase of a lifecycle call. -/
inductive Phase
  | connect
  | disconnect
  deriving DecidableEq

/-- What a call finds: the connections of the control plane, the database, the clock as a socket is
looked up, the connections that the registry of nodes has dropped once a row is replayed, the rows
whose provider it holds, and the clock as a row is inserted. -/
structure Surroundings where
  connections : List SocketId
  db : Database
  readings : SocketId → Readings
  dropped : SocketId → SocketId → Bool
  bound : ActorSocketRow → Bool
  insertedAt : Millis

namespace ActorRealtime

/-- A new actor. -/
def start : ActorRealtime := ⟨.empty, .empty, [], [], false, .empty, []⟩

variable (s : ActorRealtime)

def note (e : Effect) : ActorRealtime := { s with log := e :: s.log }

/-- Does the registry know the socket? -/
def isAttached (socketId : SocketId) : Bool := (s.attached.get? socketId).isSome

/-! ### The table -/

/-- `ActorSocketTable.get`. -/
def row? (socketId : SocketId) : Option ActorSocketRow :=
  s.table.find? (·.socketId == socketId)

/-- `ActorSocketTable.delete`. -/
def deleteRow (socketId : SocketId) : ActorRealtime :=
  { s with table := s.table.filter (·.socketId != socketId) }

/-- `ActorSocketTable.insert`: a row of a reused id is replaced in its place. -/
def insertRow (row : ActorSocketRow) : ActorRealtime :=
  { s with table :=
      if (s.row? row.socketId).isSome then
        s.table.map fun r => if r.socketId == row.socketId then row else r
      else s.table ++ [row] }

/-- `ActorSocketTable.all`. -/
def allRows : List ActorSocketRow :=
  s.table.insertionSort fun r r' => r.attachedAt ≤ r'.attachedAt

/-- Do two rows belong to one node? -/
def sameNode : Identity → Identity → Bool
  | .node w n, .node w' n' => w == w' && n == n'
  | _, _ => false

/-- `ActorSocketTable.sync`: a provider bound here is unbound from the other sockets of the node. -/
def sync (socketId : SocketId) (providerName : Option String) : ActorRealtime :=
  { s with table := s.table.map fun r =>
      if r.socketId == socketId then { r with providerName }
      else if truthy providerName && r.providerName == providerName &&
          (s.row? socketId).any fun row => sameNode row.identity r.identity then
        { r with providerName := none }
      else r }

/-! ### Connections -/

/-- `teardown`. -/
def teardown (socketId : SocketId) : ActorRealtime :=
  let s' := { s with
    attached := s.attached.erase socketId
    superseded := s.superseded.erase socketId }.deleteRow socketId
  if s.isAttached socketId then s'.note (.tornDown socketId) else s'

/-- Is it a connection of a node that the registry of nodes has dropped? -/
def drops (dropped : SocketId → Bool) (entry : SocketId × Identity) : Bool :=
  entry.2.isNode && dropped entry.1

/-- `forgetDropped`. -/
def forgetDropped (dropped : SocketId → Bool) : ActorRealtime :=
  (s.attached.entries.filter (drops dropped)).foldl (fun s entry =>
    { s with
      attached := s.attached.erase entry.1
      superseded := s.superseded.set entry.1 entry.2 }.deleteRow entry.1) s

/-- `syncRow`: nothing is copied for a connection that the registry of nodes has dropped. -/
def syncRow (socketId : SocketId) (state : Option (Option String)) : ActorRealtime :=
  match state with
  | some providerName => if s.isAttached socketId then s.sync socketId providerName else s
  | none => s

section Options

variable (o : Options) (env : Surroundings)

/-- `replay`. -/
def replay (row : ActorSocketRow) : Option ActorRealtime :=
  if row.identity.workspaceId ≠ o.workspaceId then none
  else if (env.db.refusal (env.readings row.socketId) row.identity).isSome then none
  else
    let s' := { s with attached := s.attached.set row.socketId row.identity }
    some (if row.identity.isNode then s'.forgetDropped (env.dropped row.socketId) else s')

/-- The code that a row is closed with whose principal is no longer good. -/
def closeCode (row : ActorSocketRow) : ℕ :=
  if row.identity.workspaceId = o.workspaceId then UNAUTHORIZED_CLOSE_CODE
  else INVALID_PRINCIPAL_CLOSE_CODE

/-- The socket is no longer among the live ones, and is closed. -/
def close (socketId : SocketId) (code : ℕ) : ActorRealtime :=
  { s with live := s.live.filter (· != socketId) }.note (.closed socketId code)

/-- `replayOrClose`. -/
def replayOrClose (row : ActorSocketRow) : ActorRealtime :=
  match s.replay o env row with
  | some s' => s'
  | none => (s.deleteRow row.socketId).close row.socketId (closeCode o row)

/-! ### Reconciliation -/

/-- A row of an earlier activation; one whose socket is gone is put off. -/
def replayRow (event : Option (SocketId × Phase)) (p : ActorRealtime × List ActorSocketRow)
    (row : ActorSocketRow) : ActorRealtime × List ActorSocketRow :=
  if p.1.isAttached row.socketId then p
  else if event = some (row.socketId, .connect) then (p.1.deleteRow row.socketId, p.2)
  else if !p.1.live.contains row.socketId then (p.1, p.2 ++ [row])
  else (p.1.replayOrClose o env row, p.2)

/-- A row whose socket is gone. -/
def settleVanished (event : Option (SocketId × Phase)) (s : ActorRealtime)
    (row : ActorSocketRow) : ActorRealtime :=
  if event = some (row.socketId, .disconnect) then s
  else if row.identity.isNode && truthy row.providerName && env.bound row then
    s.deleteRow row.socketId
  else
    match s.replay o env row with
    | none => s.deleteRow row.socketId
    | some s' => s'.teardown row.socketId

/-- A connection of the control plane. -/
def settleConnection (event : Option (SocketId × Phase)) (s : ActorRealtime)
    (socketId : SocketId) : ActorRealtime :=
  if s.isAttached socketId || event.any (·.1 == socketId) then s
  else
    match s.row? socketId with
    | some row => s.replayOrClose o env row
    | none => s.close socketId ACTOR_RESTARTED_CLOSE_CODE

/-- A connection of the registry. -/
def settleAttached (event : Option (SocketId × Phase)) (s : ActorRealtime)
    (socketId : SocketId) : ActorRealtime :=
  if event = some (socketId, .disconnect) ∨ s.live.contains socketId then s
  else s.teardown socketId

/-- The first call of an activation replays the rows of the one before. -/
def replayRows (event : Option (SocketId × Phase)) : ActorRealtime :=
  if s.replayed then s
  else
    let p := s.allRows.foldl (replayRow o env event) ({ s with replayed := true }, [])
    p.2.foldl (settleVanished o env event) p.1

/-- The connections of the control plane: each is attached in the end, or closed. -/
def settleConnections (event : Option (SocketId × Phase)) : ActorRealtime :=
  env.connections.foldl (settleConnection o env event) s

/-- The connections of the registry: those that are gone are torn down. -/
def settleRegistry (event : Option (SocketId × Phase)) : ActorRealtime :=
  (s.attached.entries.map Prod.fst).foldl (settleAttached event) s

/-- Superseded connections that are gone are forgotten. -/
def forgetGone : ActorRealtime :=
  let gone := (s.superseded.entries.map Prod.fst).filter (!s.live.contains ·)
  { s with superseded := gone.foldl Dict.erase s.superseded }

/-- `rehydrate`. -/
def rehydrate (event : Option (SocketId × Phase)) : ActorRealtime :=
  let s := { s with live := env.connections ++ (event.map Prod.fst).toList }
  (((s.replayRows o env event).settleConnections o env event).settleRegistry event).forgetGone

/-! ### Calls -/

def reject (socketId : SocketId) (code : ℕ) (reason : String) : ActorRealtime :=
  s.note (.rejected socketId code reason)

/-- What a rejection calls the verdict. -/
def verdictText : Verdict → String
  | .ok => "ok"
  | .unsigned => "unsigned"
  | .badSignature => "bad signature"
  | .expired => "expired"
  | .notYetValid => "not yet valid"

/-- The nonces of grants that are too old to be used are forgotten. -/
def pruneNonces (now : Millis) : ActorRealtime :=
  let expired := s.usedNonces.entries.filter fun used =>
    decide (used.2 + SOCKET_GRANT_MAX_AGE_MS < now)
  { s with usedNonces := (expired.map Prod.fst).foldl Dict.erase s.usedNonces }

/-- The nonce of a principal has been used. -/
def useNonce (p : SocketPrincipal) : ActorRealtime :=
  { s with usedNonces := s.usedNonces.set (p.nonce.getD "") (p.iat.getD 0) }

/-- A socket is attached, and gets its row. -/
def attach (socketId : SocketId) (identity : Identity) (insertedAt : Millis) : ActorRealtime :=
  { s with attached := s.attached.set socketId identity }.insertRow
    ⟨socketId, identity, none, insertedAt⟩

/-- The rest of `onConnect`, for a principal whose nonce was not used: the workspace and the node or
token are looked up, and the socket is attached. -/
def admitSocket (socketId : SocketId) (p : SocketPrincipal) (now : Millis) : ActorRealtime :=
  match env.db.refusal (env.readings socketId) p.identity with
  | some reason => s.reject socketId UNAUTHORIZED_CLOSE_CODE reason
  | none =>
    (s.attach socketId p.identity env.insertedAt).note (.admitted socketId p now)

/-- `onConnect`, for metadata that is a principal. -/
def connectAs (socketId : SocketId) (p : SocketPrincipal) (now : Millis) : ActorRealtime :=
  if p.identity.workspaceId ≠ o.workspaceId then
    s.reject socketId INVALID_PRINCIPAL_CLOSE_CODE "socket principal names another workspace"
  else
    let s := s.note (.checked p now)
    let verdict := verifySocketPrincipal o.hmacSha256 o.grantSecret p now
    if verdict ≠ .ok then
      s.reject socketId UNAUTHORIZED_CLOSE_CODE ("socket grant " ++ verdictText verdict)
    else
      let s := s.pruneNonces now
      if (s.usedNonces.get? (p.nonce.getD "")).isSome then
        s.reject socketId UNAUTHORIZED_CLOSE_CODE "socket grant already used"
      else (s.useNonce p).admitSocket env socketId p now

/-- `onConnect`. -/
def onConnect (socketId : SocketId) (metadata : Option JsonObject) (now : Millis) :
    ActorRealtime :=
  let s := s.rehydrate o env (some (socketId, .connect))
  let s := if s.isAttached socketId then s.teardown socketId else s
  match metadata.bind safeParse with
  | none => s.reject socketId INVALID_PRINCIPAL_CLOSE_CODE "invalid socket principal"
  | some p => s.connectAs o env socketId p now

/-- `onMessage`: the registry of nodes handles the frame, and may drop connections as it does. -/
def onMessage (socketId : SocketId) (dropped : SocketId → Bool) (state : Option (Option String)) :
    ActorRealtime :=
  let s := s.rehydrate o env none
  match (s.attached.get? socketId).or (s.superseded.get? socketId) with
  | none => s
  | some identity =>
    let s := s.note (.handled socketId)
    if identity.isNode then (s.forgetDropped dropped).syncRow socketId state else s

/-- `onDisconnect`. -/
def onDisconnect (socketId : SocketId) : ActorRealtime :=
  let s := s.rehydrate o env (some (socketId, .disconnect))
  { s with live := s.live.filter (· != socketId) }.teardown socketId

end Options

end ActorRealtime

/-! ## Calls of an actor -/

/-- The work of a call: an upgrade that the engine has authenticated, a lifecycle call of a socket,
or work of the engine that drops connections of nodes and copies their state. -/
inductive Work
  | upgrade (identity : Identity) (now : Millis) (random : List UInt8)
  | connect (socketId : SocketId) (metadata : Option JsonObject) (now : Millis)
  | message (socketId : SocketId) (dropped : SocketId → Bool) (state : Option (Option String))
  | disconnect (socketId : SocketId)
  | engine (dropped : SocketId → Bool) (states : List (SocketId × Option (Option String)))

/-- A call, which may fail and have its writes rolled back, or the loss of the memory. -/
inductive Call
  | work (env : Surroundings) (work : Work) (rolledBack : Bool)
  | sleep

variable (o : Options) (s : ActorRealtime)

/-- What a call does. -/
def Work.run (env : Surroundings) : Work → ActorRealtime
  | .upgrade identity now random =>
    (s.rehydrate o env none).note
      (.granted (signSocketPrincipal o.hmacSha256 o.grantSecret identity now random))
  | .connect socketId metadata now => s.onConnect o env socketId metadata now
  | .message socketId dropped state => s.onMessage o env socketId dropped state
  | .disconnect socketId => s.onDisconnect o env socketId
  | .engine dropped states =>
    states.foldl (fun s entry => s.syncRow entry.1 entry.2)
      ((s.rehydrate o env none).forgetDropped dropped)

/-- One call of the actor. -/
def Call.step (s : ActorRealtime) : Call → Option ActorRealtime
  | .work env w rolledBack =>
    let s' := w.run o s env
    some (if rolledBack then { s' with table := s.table } else s')
  | .sleep => some { ActorRealtime.start with table := s.table, log := .restarted :: s.log }

end Grant
