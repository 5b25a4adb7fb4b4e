import Relaycast.Enrollment.Tags
import Relaycast.Interleaving.Run
import Relaycast.Relational.Table
import Relaycast.Relational.Timestamp

/-!
# Enrolled nodes

A row of `nodes` is what a host has enrolled: its identity, the digest of the token it
authenticates with, and the tags it carries.  Enrollment writes a row or rotates its token;
`node.register`, heartbeats and disconnects write its name and its liveness.

A rotation under an idempotency key leaves on the row what it was: the digest it superseded, the
key and the request, and until when a caller that lost the reply may recover the token.  The
statements are the reads and writes of these functions.  Each write can be refused by a unique
index: ids, names and token digests are unique.  Every write of a status or a heartbeat advances the
liveness revision of its row.
-/

namespace Enrollment

open Relational Interleaving

abbrev NodeId := String
abbrev AgentId := String

/-- A raw credential. -/
abbrev Token := String

/-- The digest of a credential, a key or a request, in hex. -/
abbrev Hash := String

/-! ## Nodes -/

/-- `NodeKind`, with the two values of older rows. -/
inductive NodeKind
  | ws
  | httpPush
  | poll
  | fleetWs
  | directWs
  deriving DecidableEq

inductive NodeRole
  | broker
  | direct
  deriving DecidableEq

inductive NodeStatus
  | online
  | offline
  deriving DecidableEq

/-- A row of `nodes`. -/
structure NodeRow where
  id : NodeId
  name : String
  tokenHash : Hash
  previousTokenHash : Option Hash
  previousTokenExpiresAt : Option Seconds
  rotationIdempotencyKeyHash : Option Hash
  rotationRequestDigest : Option Hash
  machineId : Option String
  kind : NodeKind
  role : NodeRole
  maxAgents : ℕ
  tags : List Tag
  status : NodeStatus
  lastHeartbeatAt : Option Seconds
  provenLiveAt : Option Seconds
  livenessRevision : ℕ
  createdAt : Seconds
  deriving DecidableEq

instance : Keyed NodeRow where
  Key := NodeId × String × Hash
  key r := (r.id, r.name, r.tokenHash)
  clash k k' := k.1 == k'.1 || k.2.1 == k'.2.1 || k.2.2 == k'.2.2
  clash_comm k k' := by simp only [BEq.comm]

/-- `NODE_LIVENESS_TTL_MS`. -/
def NODE_LIVENESS_TTL_MS : Millis := 45000

/-- `NODE_ROTATION_RECOVERY_TTL_MS`. -/
def NODE_ROTATION_RECOVERY_TTL_MS : Millis := 24 * 60 * 60 * 1000

/-- `MACHINE_MATCH_SCAN_LIMIT`. -/
def MACHINE_MATCH_SCAN_LIMIT : ℕ := 20

/-- `IMPLICIT_DIRECT_NODE_ID_PREFIX`. -/
def IMPLICIT_DIRECT_NODE_ID_PREFIX : String := "node_direct_"

/-- `directNodeIdForAgent`. -/
def directNodeIdForAgent (agentId : AgentId) : NodeId := IMPLICIT_DIRECT_NODE_ID_PREFIX ++ agentId

/-- `isNodeLive`. -/
def NodeRow.isNodeLive (r : NodeRow) (now : Millis) : Bool :=
  r.status == .online && r.lastHeartbeatAt.any fun heartbeat =>
    decide (toDate heartbeat ≤ now) && decide (now - toDate heartbeat ≤ NODE_LIVENESS_TTL_MS)

/-- `isReusableForMachineMatch`. -/
def NodeRow.isReusableForMachineMatch (r : NodeRow) (now : Millis) : Bool :=
  !r.isNodeLive now && r.lastHeartbeatAt.all (fun heartbeat => decide (toDate heartbeat ≤ now)) &&
    r.provenLiveAt.any fun proven =>
      decide (toDate proven ≤ now) && decide (NODE_LIVENESS_TTL_MS < now - toDate proven)

/-- `reusableWhere`: the same as a condition on columns. -/
def NodeRow.reusableWhere (r : NodeRow) (machineId : String) (now : Millis) : Bool :=
  let liveCutoff := toSeconds (now - NODE_LIVENESS_TTL_MS)
  r.machineId == some machineId && r.role == .broker &&
    r.provenLiveAt.any (fun proven => decide (proven < liveCutoff)) &&
    (r.status != .online || r.lastHeartbeatAt.all fun heartbeat => decide (heartbeat < liveCutoff)) &&
    r.lastHeartbeatAt.all fun heartbeat => decide (heartbeat ≤ toSeconds now)

/-- The trigger `nodes_advance_liveness_revision`, after an update of the status or of the
heartbeat. -/
def nodesAdvanceLivenessRevision (old new : NodeRow) : NodeRow :=
  if new.livenessRevision = old.livenessRevision then
    { new with livenessRevision := old.livenessRevision + 1 }
  else new

/-! ## Enrollments -/

/-- The `data` of an enrollment.  The manifest, the version and the delivery adapter are written
through and decide nothing here. -/
structure EnrollData where
  nodeId : Option NodeId
  name : String
  machineId : Option String
  kind : Option NodeKind
  role : Option NodeRole
  maxAgents : Option ℕ
  tags : Option (List Tag)
  deriving DecidableEq

/-- `keyedRecovery`: the tokens the request derives, current family first, and its binding. -/
structure KeyedRecovery where
  replacementToken : Token
  olderReplacementTokens : List Token
  idempotencyKeyHash : Hash
  requestDigest : Hash
  deriving DecidableEq

/-- `authorization`. -/
structure Authorization where
  expectedTokenHash : Option Hash
  directAgentId : Option AgentId
  keyedRecovery : Option KeyedRecovery
  admitRegistration : Bool
  deriving DecidableEq

/-- An enrollment under way: its request, the token it would hand out, and its clock reading. -/
structure Attempt where
  data : EnrollData
  authorization : Authorization
  token : Token
  tokenHash : Hash
  name : String
  now : Millis
  deriving DecidableEq

/-- `normalizeLegacyNodeShape`. -/
def normalizeLegacyNodeShape (kind : NodeKind) (role : Option NodeRole) : NodeKind × NodeRole :=
  match kind with
  | .fleetWs => (.ws, .broker)
  | .directWs => (.ws, .direct)
  | .httpPush => (.httpPush, if role = some .broker then .broker else .direct)
  | .poll => (.poll, if role = some .broker then .broker else .direct)
  | .ws => (.ws, if role = some .direct then .direct else .broker)

/-- `requestedNodeRole`. -/
def EnrollData.requestedNodeRole (data : EnrollData) : NodeRole :=
  data.role.getD (normalizeLegacyNodeShape (data.kind.getD .ws)
    (if data.maxAgents.any (fun n => decide (1 < n)) then some .broker else none)).2

/-- `normalized`: the transport and the role the row gets. -/
def EnrollData.shape (data : EnrollData) (existing : Option NodeRow) : NodeKind × NodeRole :=
  normalizeLegacyNodeShape ((data.kind.or (existing.map (·.kind))).getD .ws)
    ((data.role.or (existing.map (·.role))).or
      (if data.maxAgents.any (fun n => decide (1 < n)) then some .broker else none))

/-- `maxAgents`. -/
def EnrollData.capacity (data : EnrollData) (existing : Option NodeRow) : ℕ :=
  if (data.shape existing).2 = .direct then data.maxAgents.getD 1
  else (data.maxAgents.or (existing.map (·.maxAgents))).getD 0

namespace Attempt

variable (e : Attempt)

def hasPresentedTokenProof : Bool := e.authorization.expectedTokenHash.isSome

/-- `authorizedDirectNode`. -/
def authorizedDirectNode (existing : NodeRow) : Bool :=
  e.authorization.directAgentId.any (fun agentId => existing.id == directNodeIdForAgent agentId) &&
    existing.role == .direct

/-- `keyedBindingMatches`: the row's recovery binding is that of this key and body, and its window
is open. -/
def keyedBindingMatches (candidate : NodeRow) : Bool :=
  e.authorization.keyedRecovery.any fun recovery =>
    candidate.rotationIdempotencyKeyHash == some recovery.idempotencyKeyHash &&
      candidate.rotationRequestDigest == some recovery.requestDigest &&
      candidate.previousTokenExpiresAt.any fun expiresAt => decide (e.now < toDate expiresAt)

/-- `isIdempotentReplay`. -/
def isIdempotentReplay (candidate : NodeRow) : Bool :=
  candidate.previousTokenHash == e.authorization.expectedTokenHash &&
    e.keyedBindingMatches candidate

/-- The recovery of a keyed rotation by proof. -/
def keyedRotation (existing : NodeRow) : Option KeyedRecovery :=
  if e.hasPresentedTokenProof && !e.authorizedDirectNode existing then
    e.authorization.keyedRecovery
  else none

/-- The recovery of a keyed first enrollment. -/
def keyedCreate : Option KeyedRecovery :=
  if !e.hasPresentedTokenProof && e.authorization.directAgentId.isNone then
    e.authorization.keyedRecovery
  else none

/-- When the recovery window of a token minted now closes. -/
def recoveryExpiresAt : Seconds := toSeconds (e.now + NODE_ROTATION_RECOVERY_TTL_MS)

/-- What a rotation sets, from the row it has read. -/
def rotated (existing r : NodeRow) : NodeRow :=
  { r with
    name := e.name
    tokenHash := e.tokenHash
    previousTokenHash := (e.keyedRotation existing).bind fun _ => e.authorization.expectedTokenHash
    previousTokenExpiresAt := (e.keyedRotation existing).map fun _ => e.recoveryExpiresAt
    rotationIdempotencyKeyHash := (e.keyedRotation existing).map (·.idempotencyKeyHash)
    rotationRequestDigest := (e.keyedRotation existing).map (·.requestDigest)
    kind := (e.data.shape (some existing)).1
    role := (e.data.shape (some existing)).2
    machineId := e.data.machineId.or existing.machineId
    provenLiveAt := none
    maxAgents := e.data.capacity (some existing)
    tags := e.data.tags.getD existing.tags
    status := .offline }

/-- Where a rotation writes: the row it has read, unchanged in liveness where an authority keeps
it, and still holding the token whose proof was presented. -/
def rotatesWhere (authority : Bool) (existing r : NodeRow) : Bool :=
  r.id == existing.id && (!authority || r.livenessRevision == existing.livenessRevision) &&
    (!e.hasPresentedTokenProof || e.authorizedDirectNode existing ||
      some r.tokenHash == e.authorization.expectedTokenHash)

/-- The row a first enrollment inserts. -/
def inserted (generatedId : NodeId) : NodeRow where
  id := e.data.nodeId.getD generatedId
  name := e.name
  tokenHash := e.tokenHash
  previousTokenHash := none
  previousTokenExpiresAt := e.keyedCreate.map fun _ => e.recoveryExpiresAt
  rotationIdempotencyKeyHash := e.keyedCreate.map (·.idempotencyKeyHash)
  rotationRequestDigest := e.keyedCreate.map (·.requestDigest)
  kind := (e.data.shape none).1
  role := (e.data.shape none).2
  machineId := e.data.machineId
  maxAgents := e.data.capacity none
  tags := e.data.tags.getD []
  status := .offline
  lastHeartbeatAt := none
  provenLiveAt := none
  livenessRevision := 0
  createdAt := toSeconds e.now

end Attempt

/-! ## The store -/

/-- `codedError`. -/
structure CodedError where
  message : String
  code : String
  status : ℕ
  deriving DecidableEq

/-- The nodes of a workspace, the clock, and how many credentials were issued. -/
structure Store where
  nodes : Table NodeRow
  now : Millis
  issued : ℕ

/-- What a keyed request is: the token presented, the key and the body. -/
structure KeyedRequest where
  currentNodeToken : Option Token
  idempotencyKeyHash : Hash
  requestDigest : Hash
  deriving DecidableEq

/-- The cryptography: the digest, the credentials issued one after the other, and the credentials
a keyed request derives, in the current family and in the older ones. -/
structure Crypto where
  sha256Hex : Token → Hash
  issueCredential : ℕ → Token
  replacementToken : KeyedRequest → Token
  olderReplacementTokens : KeyedRequest → List Token

/-- How a write that a unique index can refuse comes out. -/
inductive WriteOutcome
  | violated
  | missed
  | wrote (row : NodeRow)
  deriving DecidableEq

/-- What the providers of a broker add up to. -/
structure Aggregate where
  maxAgents : ℕ
  status : NodeStatus
  lastHeartbeatAt : Seconds

/-! ## Statements -/

/-- The statements.  The lookup of a winner carries the clock reading its window is judged by. -/
inductive Stmt
  | dateNow
  | issueCredential
  | nodeById (id : NodeId)
  | nodeByName (name : String)
  | nodeByPreviousTokenHash (tokenHash : Hash)
  | winnerById (id : NodeId) (now : Millis)
  | winnerByTokenHash (tokenHash : Hash) (now : Millis)
  | provenCandidate (machineId : String) (now : Millis) (tokenHash : Hash)
  | candidates (machineId : String) (now : Millis)
  | inspect (id : NodeId)
  | admitRegistration
  | rotate (e : Attempt) (existing : NodeRow)
  | insert (e : Attempt)
  | registerDirect (existing : NodeRow) (message : RegisterMessage) (now : Millis)
  | registerBroker (id : NodeId) (message : RegisterMessage)
  | refreshAggregate (id : NodeId) (name machineId : Option String) (provenLiveAt : Option Millis)
  | heartbeatDirect (id : NodeId) (name : Option String) (now : Millis)
  | markOffline (id : NodeId) (now : Millis)

/-- What the outside world contributes: which of several rows is found, whether the liveness
authority reports a node offline, what the host throws instead of admitting a device, the id of a
new row, and the providers of a broker. -/
def Stmt.Answer : Stmt → Type
  | .nodeByPreviousTokenHash _ => ℕ
  | .inspect _ => Bool
  | .admitRegistration => Option CodedError
  | .insert _ => NodeId
  | .refreshAggregate .. => Aggregate
  | _ => Unit

/-- What each statement replies. -/
def Stmt.Reply : Stmt → Type
  | .dateNow => Millis
  | .issueCredential => Token
  | .nodeById _ | .nodeByName _ | .nodeByPreviousTokenHash _ => Option NodeRow
  | .winnerById .. | .winnerByTokenHash .. | .provenCandidate .. => Option NodeRow
  | .candidates .. => List NodeRow
  | .inspect _ => Bool
  | .admitRegistration => Option CodedError
  | .rotate .. | .insert _ | .registerDirect .. | .registerBroker .. => WriteOutcome
  | .refreshAggregate .. | .heartbeatDirect .. | .markOffline .. => WriteOutcome

/-- The language of enrollment. -/
abbrev lang : Language where
  Stmt := Stmt
  Answer := Stmt.Answer
  Reply := Stmt.Reply

/-- Issue one statement and return its reply. -/
abbrev await (q : Stmt) : Prog lang q.Reply := Prog.ask (L := lang) q

namespace Store

variable (s : Store)

/-- `SELECT … FROM nodes WHERE p`, of a column that is unique. -/
def node? (p : NodeRow → Bool) : Option NodeRow := s.nodes.rows.find? p

/-- `SELECT … FROM nodes WHERE p LIMIT 1`: one of the rows. -/
def someNode (p : NodeRow → Bool) (choice : ℕ) : Option NodeRow :=
  (s.nodes.select p)[choice % (s.nodes.select p).length]?

/-- The reusable rows of a machine, oldest first. -/
def candidates (machineId : String) (now : Millis) : List NodeRow :=
  ((s.nodes.select (·.reusableWhere machineId now)).mergeSort fun r r' =>
    decide (r.createdAt < r'.createdAt) || (r.createdAt == r'.createdAt && decide (r.id ≤ r'.id))).take
      MACHINE_MATCH_SCAN_LIMIT

/-- `UPDATE nodes SET set WHERE p`, with the row it returns. -/
def updateNode (p : NodeRow → Bool) (set stored : NodeRow → NodeRow) : WriteOutcome × Store :=
  match s.node? p with
  | none => (.missed, s)
  | some row =>
    match s.nodes.updateChecked p stored with
    | none => (.violated, s)
    | some nodes => (.wrote (set row), { s with nodes := nodes })

/-- An update of the status or of the heartbeat: the trigger follows it. -/
def updateLiveness (p : NodeRow → Bool) (set : NodeRow → NodeRow) : WriteOutcome × Store :=
  s.updateNode p set fun r => nodesAdvanceLivenessRevision r (set r)

/-- `INSERT INTO nodes`. -/
def insertNode (row : NodeRow) : WriteOutcome × Store :=
  if h : s.nodes.conflicts row = false then
    (.wrote row, { s with nodes := s.nodes.insert row h })
  else (.violated, s)

end Store

/-- What the registration of a direct node sets, from the row it has read. -/
def registeredDirect (existing : NodeRow) (message : RegisterMessage) (now : Millis)
    (r : NodeRow) : NodeRow :=
  { r with
    name := message.name
    kind := .ws
    role := .direct
    maxAgents := 1
    tags := directTags existing.tags (registrationTags message)
    machineId := message.machineId.or existing.machineId
    status := .online
    lastHeartbeatAt := some (toSeconds now) }

/-- What the registration of a broker sets. -/
def registeredBroker (message : RegisterMessage) (r : NodeRow) : NodeRow :=
  { r with
    name := message.name
    kind := .ws
    role := .broker
    tags := brokerTagsPreservingServerOwned r.tags (registrationTags message) }

/-- What the refresh of a broker's aggregate sets. -/
def refreshed (name machineId : Option String) (provenLiveAt : Option Millis) (sum : Aggregate)
    (r : NodeRow) : NodeRow :=
  { r with
    name := name.getD r.name
    machineId := machineId.or r.machineId
    maxAgents := sum.maxAgents
    status := sum.status
    lastHeartbeatAt := some sum.lastHeartbeatAt
    provenLiveAt := (provenLiveAt.map toSeconds).or r.provenLiveAt }

/-- What the heartbeat of a direct node sets. -/
def heartbeatenDirect (name : Option String) (now : Millis) (r : NodeRow) : NodeRow :=
  { r with
    name := name.getD r.name
    status := .online
    lastHeartbeatAt := some (toSeconds now)
    provenLiveAt := some (toSeconds now) }

/-- What a disconnect sets. -/
def markedOffline (now : Millis) (r : NodeRow) : NodeRow :=
  { r with status := .offline, lastHeartbeatAt := some (toSeconds now) }

/-- Execute one statement. -/
def run (C : Crypto) (authority : Bool) : (q : Stmt) → q.Answer → Store → q.Reply × Store
  | .dateNow, _, s => (s.now, s)
  | .issueCredential, _, s => (C.issueCredential s.issued, { s with issued := s.issued + 1 })
  | .nodeById id, _, s => (s.node? (·.id == id), s)
  | .nodeByName name, _, s => (s.node? (·.name == name), s)
  | .nodeByPreviousTokenHash tokenHash, (choice : ℕ), s =>
    (s.someNode (·.previousTokenHash == some tokenHash) choice, s)
  | .winnerById id _, _, s => (s.node? (·.id == id), s)
  | .winnerByTokenHash tokenHash _, _, s => (s.node? (·.tokenHash == tokenHash), s)
  | .provenCandidate machineId now tokenHash, _, s =>
    (s.node? fun r => r.reusableWhere machineId now && r.tokenHash == tokenHash, s)
  | .candidates machineId now, _, s => (s.candidates machineId now, s)
  | .inspect _, (offline : Bool), s => (offline, s)
  | .admitRegistration, (refusal : Option CodedError), s => (refusal, s)
  | .rotate e existing, _, s => s.updateLiveness (e.rotatesWhere authority existing) (e.rotated existing)
  | .insert e, (generatedId : NodeId), s => s.insertNode (e.inserted generatedId)
  | .registerDirect existing message now, _, s =>
    s.updateLiveness (·.id == existing.id) (registeredDirect existing message now)
  | .registerBroker id message, _, s =>
    s.updateNode (·.id == id) (registeredBroker message) (registeredBroker message)
  | .refreshAggregate id name machineId provenLiveAt, (sum : Aggregate), s =>
    s.updateLiveness (·.id == id) (refreshed name machineId provenLiveAt sum)
  | .heartbeatDirect id name now, _, s =>
    s.updateLiveness (·.id == id) (heartbeatenDirect name now)
  | .markOffline id now, _, s => s.updateLiveness (·.id == id) (markedOffline now)

/-- The machine of enrollment; the clock advances between statements. -/
def machine (C : Crypto) (authority : Bool) : Machine lang Store where
  run := run C authority
  Drift := Millis
  drift elapsed s := { s with now := s.now + elapsed }

end Enrollment
