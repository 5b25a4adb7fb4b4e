import Relaycast.Enrollment.Tables

/-!
# Enrolling and registering nodes

`createNodeToken` looks for the row a request is about, by id, name, machine or superseded token,
and then rotates that row's token or inserts a new row.  Under an idempotency key the token is
derived from the request, so that a request that is made again finds what it has left.
`registerNode`, heartbeats and disconnects are what a connected node does to its row.
-/

namespace Enrollment

open Relational Interleaving

/-! ## Errors -/

def invalidNodeName : CodedError :=
  ⟨"Node name must be non-empty and cannot begin with \"#\"", "invalid_node_name", 400⟩

def reservedNodeId : CodedError :=
  ⟨"Node ids beginning with \"" ++ IMPLICIT_DIRECT_NODE_ID_PREFIX ++
    "\" are reserved for implicit direct nodes", "reserved_node_id", 400⟩

def nodeNameConflict (name : String) : CodedError :=
  ⟨"Node name \"" ++ name ++ "\" is already enrolled by another node", "node_name_conflict", 409⟩

def directNodeCapacityExceeded : CodedError :=
  ⟨"Direct nodes can bind at most one agent", "direct_node_capacity_exceeded", 400⟩

def nodeTokenProofRequired : CodedError :=
  ⟨"Node already exists; its current node token is required to rotate or modify it",
    "node_token_proof_required", 409⟩

def nodeTokenChanged : CodedError :=
  ⟨"Node token changed before enrollment completed; retry with the current node token",
    "node_token_proof_required", 409⟩

/-- What the driver throws when a unique index refuses a write. -/
def uniqueViolation : CodedError := ⟨"UNIQUE constraint failed", "internal_error", 500⟩

def nodeNotFound : CodedError :=
  ⟨"Node token is not enrolled in this workspace", "node_not_found", 404⟩

def nodeNameEnrolled (name : String) : CodedError :=
  ⟨"Node name \"" ++ name ++ "\" is already enrolled", "node_name_conflict", 409⟩

/-! ## Finding the row -/

/-- `name.startsWith('#') ? name.slice(1) : name`. -/
def withoutHash (name : String) : String :=
  if startsWith name "#" then String.ofList (name.toList.drop 1) else name

/-- `reusableMachineNode`: the liveness authority decides where there is one. -/
def reusableMachineNode (authority : Bool) (r : NodeRow) : Prog lang Bool :=
  match authority with
  | true => await (.inspect r.id)
  | false => do
    let now : Millis ← await .dateNow
    pure (r.isReusableForMachineMatch now)

/-- `filterAsync`, and the first row that it keeps. -/
def firstReusable (authority : Bool) : List NodeRow → Prog lang (Option NodeRow)
  | [] => pure none
  | r :: rs => do
    let kept : Bool ← reusableMachineNode authority r
    let rest : Option NodeRow ← firstReusable authority rs
    pure (if kept then some r else rest)

/-- The proven candidate, if a proof is presented and selects a reusable row. -/
def provenMachineNode (authority : Bool) (machineId : String) (now : Millis) :
    Option Hash → Prog lang (Option NodeRow)
  | none => pure none
  | some tokenHash => do
    let candidate : Option NodeRow ← await (.provenCandidate machineId now tokenHash)
    match candidate with
    | none => pure none
    | some r =>
      let kept : Bool ← reusableMachineNode authority r
      pure (if kept then some r else none)

/-- `getBrokerNodeByMachineId`. -/
def getBrokerNodeByMachineId (authority : Bool) (machineId : String)
    (expectedTokenHash : Option Hash) : Prog lang (Option NodeRow) := do
  let now : Millis ← await .dateNow
  let proven : Option NodeRow ← provenMachineNode authority machineId now expectedTokenHash
  match proven with
  | some r => pure (some r)
  | none =>
    let candidates : List NodeRow ← await (.candidates machineId now)
    firstReusable authority candidates

/-- `getNodeByPreviousTokenHash`, where a proof is presented. -/
def bySupersededProof : Option Hash → Prog lang (Option NodeRow)
  | none => pure none
  | some tokenHash => await (.nodeByPreviousTokenHash tokenHash)

/-- The machine a broker without a stable id is grouped by. -/
def EnrollData.machine (data : EnrollData) : Option String :=
  if data.requestedNodeRole = .broker then data.machineId else none

/-- The lookup by machine, for a request that is grouped by one. -/
def byMachine (authority : Bool) (expectedTokenHash : Option Hash) :
    Option String → Prog lang (Option NodeRow)
  | none => pure none
  | some machineId => getBrokerNodeByMachineId authority machineId expectedTokenHash

/-- `resolveNodeForEnroll`. -/
def resolveNodeForEnroll (authority : Bool) (data : EnrollData)
    (expectedTokenHash : Option Hash) : Prog lang (Option NodeRow) :=
  match data.nodeId with
  | some id => do
    let byId : Option NodeRow ← await (.nodeById id)
    match byId with
    | some r => pure (some r)
    | none => bySupersededProof expectedTokenHash
  | none => do
    let byName : Option NodeRow ← await (.nodeByName (withoutHash data.name))
    match byName with
    | some r => pure (some r)
    | none =>
      let onMachine : Option NodeRow ← byMachine authority expectedTokenHash data.machine
      match onMachine with
      | some r => pure (some r)
      | none => bySupersededProof expectedTokenHash

/-! ## `createNodeToken` -/

/-- What an enrollment returns: the row, and a token of it. -/
structure Enrolled where
  node : NodeRow
  token : Token
  deriving DecidableEq

/-- What an enrollment returns or throws. -/
abbrev EnrollResult := Except CodedError Enrolled

/-- The tokens of a recovery, current family first. -/
def KeyedRecovery.replacementTokens (recovery : KeyedRecovery) : List Token :=
  recovery.replacementToken :: recovery.olderReplacementTokens

namespace Attempt

variable (C : Crypto) (authority : Bool) (e : Attempt)

/-- `replayedToken`: the token a row committed by this request holds, if it is one. -/
def replayedToken (candidate : NodeRow) : Option Token :=
  (e.authorization.keyedRecovery.bind fun recovery =>
    recovery.replacementTokens.find? fun token => C.sha256Hex token == candidate.tokenHash).filter
      fun _ => e.isIdempotentReplay candidate

/-- What a replay returns, and what is thrown where there is none. -/
def replay (error : CodedError) (candidate : Option NodeRow) : EnrollResult :=
  match candidate.bind fun r => (e.replayedToken C r).map fun token => ⟨r, token⟩ with
  | some enrolled => .ok enrolled
  | none => .error error

/-- The rotation has missed its row: the winner may be this very request. -/
def recoverRotation (existing : NodeRow) : Prog lang EnrollResult :=
  if e.authorization.keyedRecovery.isSome then do
    let winner : Option NodeRow ← await (.winnerById existing.id e.now)
    pure (e.replay C nodeTokenChanged winner)
  else pure (.error nodeTokenChanged)

/-- The enrollment has found a row. -/
def modify (existing : NodeRow) : Prog lang EnrollResult :=
  match e.replayedToken C existing with
  | some token => pure (.ok ⟨existing, token⟩)
  | none =>
    if e.hasPresentedTokenProof || e.authorizedDirectNode existing then do
      let outcome : WriteOutcome ← await (.rotate e existing)
      match outcome with
      | .wrote updated => pure (.ok ⟨updated, e.token⟩)
      | .violated => pure (.error uniqueViolation)
      | .missed => e.recoverRotation C existing
    else pure (.error nodeTokenProofRequired)

/-- The enrollment has found no row. -/
def create : Prog lang EnrollResult := do
  let outcome : WriteOutcome ← await (.insert e)
  match outcome with
  | .wrote created => pure (.ok ⟨created, e.token⟩)
  | .missed | .violated =>
    if e.keyedCreate.isSome then do
      let winner : Option NodeRow ← await (.winnerByTokenHash e.tokenHash e.now)
      pure (e.replay C uniqueViolation winner)
    else pure (.error uniqueViolation)

/-- Admission, for a new device: what the host throws, if it refuses. -/
def refusal : Prog lang (Option CodedError) :=
  match e.authorization.directAgentId, e.authorization.admitRegistration with
  | none, true => await .admitRegistration
  | _, _ => pure none

/-- The request has been resolved to a row, or to none. -/
def enroll (existing : Option NodeRow) : Prog lang EnrollResult :=
  if (e.data.shape existing).2 = .direct ∧ e.data.capacity existing ≠ 1 then
    pure (.error directNodeCapacityExceeded)
  else
    match existing with
    | some existing => e.modify C existing
    | none => do
      let refusal : Option CodedError ← e.refusal
      match refusal with
      | some error => pure (.error error)
      | none => e.create C

end Attempt

/-- The token of an enrollment: derived under a key, else issued. -/
def mintToken (authorization : Authorization) : Prog lang Token :=
  match authorization.keyedRecovery with
  | some recovery => pure recovery.replacementToken
  | none => await .issueCredential

/-- Does another node than the one asked for hold the name? -/
def nameTaken (data : EnrollData) (name : String) : Prog lang Bool :=
  match data.nodeId with
  | none => pure false
  | some id => do
    let nameHolder : Option NodeRow ← await (.nodeByName name)
    pure (nameHolder.any fun r => r.id != id)

/-- Is the id reserved for the implicit direct nodes, and not asked for by their agent? -/
def EnrollData.reserved (data : EnrollData) (authorization : Authorization) : Bool :=
  authorization.directAgentId.isNone &&
    data.nodeId.any fun id => startsWith id IMPLICIT_DIRECT_NODE_ID_PREFIX

def createNodeToken (C : Crypto) (authority : Bool) (data : EnrollData)
    (authorization : Authorization) : Prog lang EnrollResult := do
  let token : Token ← mintToken authorization
  if withoutHash data.name = "" ∨ startsWith (withoutHash data.name) "#" then
    pure (.error invalidNodeName)
  else if data.reserved authorization then pure (.error reservedNodeId)
  else do
    let existing : Option NodeRow ←
      resolveNodeForEnroll authority data authorization.expectedTokenHash
    let taken : Bool ← nameTaken data (withoutHash data.name)
    if taken then pure (.error (nodeNameConflict (withoutHash data.name)))
    else do
      let now : Millis ← await .dateNow
      (⟨data, authorization, token, C.sha256Hex token, withoutHash data.name, now⟩ : Attempt).enroll
        C existing

/-! ## Connected nodes -/

/-- What a registration returns or throws. -/
abbrev RegisterResult := Except CodedError Unit

def wroteOr (error : CodedError) : WriteOutcome → RegisterResult
  | .violated => .error error
  | .missed | .wrote _ => .ok ()

/-- The registration of a broker: its identity and its tags, then its aggregate. -/
def registerBroker (id : NodeId) (message : RegisterMessage) : Prog lang RegisterResult := do
  let outcome : WriteOutcome ← await (.registerBroker id message)
  match outcome with
  | .violated => pure (.error uniqueViolation)
  | .missed | .wrote _ =>
    let _ : WriteOutcome ← await (.refreshAggregate id none message.machineId none)
    pure (.ok ())

/-- `registerNode`, of the node that the token authenticates. -/
def registerNode (id : NodeId) (message : RegisterMessage) : Prog lang RegisterResult := do
  let now : Millis ← await .dateNow
  let existing : Option NodeRow ← await (.nodeById id)
  match existing with
  | none => pure (.error nodeNotFound)
  | some existing =>
    let existingByName : Option NodeRow ← await (.nodeByName message.name)
    if existingByName.any fun r => r.id != id then
      pure (.error (nodeNameEnrolled message.name))
    else
      match existing.role with
      | .direct => do
        let outcome : WriteOutcome ← await (.registerDirect existing message now)
        pure (wroteOr uniqueViolation outcome)
      | .broker => registerBroker id message

/-- `heartbeatNode`, without the frames of its providers. -/
def heartbeatNode (id : NodeId) (name : Option String) : Prog lang RegisterResult := do
  let nodeState : Option NodeRow ← await (.nodeById id)
  match nodeState with
  | none => pure (.ok ())
  | some nodeState =>
    let now : Millis ← await .dateNow
    match nodeState.role with
    | .direct =>
      let outcome : WriteOutcome ← await (.heartbeatDirect id name now)
      pure (wroteOr uniqueViolation outcome)
    | .broker =>
      let outcome : WriteOutcome ← await (.refreshAggregate id name none (some now))
      pure (wroteOr uniqueViolation outcome)

/-- The write of a disconnect. -/
def disconnectNode (id : NodeId) : Prog lang RegisterResult := do
  let now : Millis ← await .dateNow
  let _ : WriteOutcome ← await (.markOffline id now)
  pure (.ok ())

/-! ## The service -/

/-- An idempotency key with a request body, as digests. -/
structure IdempotencyKey where
  idempotencyKeyHash : Hash
  requestDigest : Hash
  deriving DecidableEq

/-- The calls: enrollments with or without a proof and a key, the token of an agent's own direct
node, and what connected nodes do. -/
inductive Call
  | enrollNode (data : EnrollData) (currentNodeToken : Option Token) (key : Option IdempotencyKey)
    (admitRegistration : Bool)
  | agentNodeToken (agentId : AgentId) (data : EnrollData)
  | registerNode (id : NodeId) (message : RegisterMessage)
  | heartbeatNode (id : NodeId) (name : Option String)
  | disconnectNode (id : NodeId)

/-- What a call returns. -/
def Call.Result : Call → Type
  | .enrollNode .. | .agentNodeToken .. => EnrollResult
  | .registerNode .. | .heartbeatNode .. | .disconnectNode _ => RegisterResult

/-- `keyedRecovery`, of a request under a key. -/
def keyedRecovery (C : Crypto) (currentNodeToken : Option Token) (key : IdempotencyKey) :
    KeyedRecovery where
  replacementToken :=
    C.replacementToken ⟨currentNodeToken, key.idempotencyKeyHash, key.requestDigest⟩
  olderReplacementTokens :=
    C.olderReplacementTokens ⟨currentNodeToken, key.idempotencyKeyHash, key.requestDigest⟩
  idempotencyKeyHash := key.idempotencyKeyHash
  requestDigest := key.requestDigest

/-- The authorization of an enrollment by a host. -/
def hostAuthorization (C : Crypto) (currentNodeToken : Option Token) (key : Option IdempotencyKey)
    (admitRegistration : Bool) : Authorization where
  expectedTokenHash := currentNodeToken.map C.sha256Hex
  directAgentId := none
  keyedRecovery := key.map (keyedRecovery C currentNodeToken)
  admitRegistration := admitRegistration

/-- The authorization of an agent over its direct node. -/
def agentAuthorization (agentId : AgentId) : Authorization where
  expectedTokenHash := none
  directAgentId := some agentId
  keyedRecovery := none
  admitRegistration := false

/-- The body of a call. -/
def Call.body (C : Crypto) (authority : Bool) : (c : Call) → Prog lang c.Result
  | .enrollNode data currentNodeToken key admitRegistration =>
    createNodeToken C authority data (hostAuthorization C currentNodeToken key admitRegistration)
  | .agentNodeToken agentId data => createNodeToken C authority data (agentAuthorization agentId)
  | .registerNode id message => Enrollment.registerNode id message
  | .heartbeatNode id name => Enrollment.heartbeatNode id name
  | .disconnectNode id => Enrollment.disconnectNode id

/-- Enrollment, from the stores that `init` allows. -/
def service (C : Crypto) (authority : Bool) (init : Store → Prop) :
    System lang Store Call Call.Result where
  toMachine := machine C authority
  body := Call.body C authority
  init := init

/-! ## A deployment to run -/

/-- A string behind its length in unary. -/
def prefixed (text : String) : List Char :=
  List.replicate text.toList.length '1' ++ '0' :: text.toList

/-- Digests that show what they are of, and tokens that show how they were made. -/
def plainCrypto : Crypto where
  sha256Hex token := token
  issueCredential n := String.ofList ('n' :: List.replicate n '+')
  replacementToken request := String.ofList ('k' :: prefixed request.idempotencyKeyHash ++
    prefixed request.requestDigest ++ (request.currentNodeToken.map prefixed).getD [])
  olderReplacementTokens _ := []

/-- An outside world that admits every device and names every new row `id`. -/
def answers (id : NodeId) : (q : Stmt) → q.Answer
  | .nodeByPreviousTokenHash _ => (0 : ℕ)
  | .inspect _ => false
  | .admitRegistration => (none : Option CodedError)
  | .insert _ => id
  | .refreshAggregate .. => (⟨0, .online, 0⟩ : Aggregate)
  | .dateNow | .issueCredential | .nodeById _ | .nodeByName _ | .winnerById .. => ()
  | .winnerByTokenHash .. | .provenCandidate .. | .candidates .. | .rotate .. => ()
  | .registerDirect .. | .registerBroker .. | .heartbeatDirect .. | .markOffline .. => ()

end Enrollment
