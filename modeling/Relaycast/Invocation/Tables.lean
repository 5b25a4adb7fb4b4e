import Relaycast.Invocation.Claim
import Relaycast.Relational.Table

/-!
# Spawn invocations and the nodes they are placed on

The rows of `action_invocations` whose action is a spawn (`spawn` or `spawn:<harness>`), the nodes
with their capacity counters, and the registered actions that shadow native capacity.  Invocations
of other actions never touch a capacity counter and are left out, as are agent-hosted handlers,
which no spawn has; so is the workspace, of which there is one.

A row's `spawn_reserved_at` marks that it holds one of the slots counted in `reserved_agents` of
the node it is dispatched to: `Row.hold` is that node.
-/

namespace Invocation

open Relational

abbrev InvocationId := String
abbrev NodeId := String
abbrev ActionId := String
abbrev AgentId := String

/-- `action_invocations.invocation_origin`. -/
inductive Origin
  | legacyUnknown
  | registeredAction
  | builtin
  deriving DecidableEq

/-- What `normalizeTarget` reads off the input: the node a spawn asks for. -/
inductive Target
  | anywhere
  | self
  | node (name : String)
  deriving DecidableEq

/-- The input of a spawn: the capability that `dispatchActionNameForInvocation` and
`normalizeCapability` make of `input.capability ?? input.cli` and the action's name, and the
node. -/
structure SpawnInput where
  capability : String
  target : Target
  verifyReady : Bool
  deriving DecidableEq

/-- A row of `action_invocations`. -/
structure Row where
  id : InvocationId
  actionId : Option ActionId
  actionName : String
  invocationOrigin : Origin
  callerId : Option AgentId
  handlerNodeId : Option NodeId
  input : SpawnInput
  output : Option String
  error : Option String
  status : Status
  dispatchedNodeId : Option NodeId
  dispatchedAt : Option Seconds
  nodeLivenessRevision : ℕ
  providerAcceptedAttempt : Option ℕ
  spawnReservedAt : Option Seconds
  attemptedNodeIds : List NodeId
  dispatchAttempts : ℕ
  dispatchedProvider : Option String
  retryAfterAt : Option Seconds
  handlerUnreachableSince : Option Seconds
  completedAt : Option Seconds
  deriving DecidableEq

instance : Keyed Row where
  Key := InvocationId
  key r := r.id
  clash k k' := k == k'
  clash_comm _ _ := BEq.comm

/-- A row of `nodes`. -/
structure Node where
  id : NodeId
  name : String
  capabilities : List String
  status : String
  handlersLive : Bool
  maxAgents : ℕ
  activeAgents : ℕ
  reservedAgents : ℕ
  livenessRevision : ℕ
  deriving DecidableEq

instance : Keyed Node where
  Key := NodeId
  key n := n.id
  clash k k' := k == k'
  clash_comm _ _ := BEq.comm

/-- A row of `actions` that a node handles. -/
structure Action where
  id : ActionId
  name : String
  handlerNodeId : NodeId
  handlerProvider : Option String
  isActive : Bool
  queue : Bool
  deriving DecidableEq

/-- `DEFAULT_PROVIDER_NAME`. -/
def defaultProviderName : String := "default"

/-- The tables of the area.  `nodeLivenessAuthority` says that the liveness of nodes is answered by
a service outside the database; it is a property of the handle. -/
structure Store where
  nodeLivenessAuthority : Bool
  nodes : Table Node
  invocations : Table Row
  actions : List Action

/-! ## Rows -/

namespace Row

variable (r : Row)

/-- The three columns a claim compares. -/
def tokens : Tokens := ⟨r.status, r.retryAfterAt, r.dispatchAttempts⟩

/-- The node on which the row holds a reserved slot. -/
def hold : Option NodeId :=
  if r.status.isOpen && r.spawnReservedAt.isSome then r.dispatchedNodeId else none

/-- A row without a marker holds nothing. -/
lemma hold_of_unmarked (h : r.spawnReservedAt = none) : r.hold = none := by
  rw [hold, h]
  simp

/-- A row without a node holds nothing. -/
lemma hold_of_undispatched (h : r.dispatchedNodeId = none) : r.hold = none := by
  rw [hold, h]
  simp

/-- A closed row holds nothing. -/
lemma hold_of_closed (h : r.status.isOpen = false) : r.hold = none := by
  rw [hold, h]
  simp

/-- `isDeletedRegisteredActionInvocation`: an orphan of a deleted action, unless its provider has
accepted this attempt. -/
def isDeletedRegisteredAction : Bool :=
  r.invocationOrigin == .registeredAction && r.actionId.isNone &&
    r.providerAcceptedAttempt != some r.dispatchAttempts

/-- `isAcceptedDeletedRegisteredActionInvocation`. -/
def isAcceptedDeletedRegisteredAction : Bool :=
  r.invocationOrigin == .registeredAction && r.actionId.isNone &&
    r.providerAcceptedAttempt == some r.dispatchAttempts

/-- `unsentNativeSpawnOn`: a native spawn whose first send failed, on that node if one is given. -/
def isUnsentNativeSpawnOn (nodeId : Option NodeId) : Bool :=
  r.status == .pending && r.actionId.isNone && r.dispatchedNodeId.isNone &&
    r.dispatchAttempts == 0 && (nodeId.isNone || r.handlerNodeId == nodeId)

/-- Does the row's liveness revision match, where one is expected? -/
def hasRevision (expected : Option ℕ) : Bool :=
  match expected with
  | none => true
  | some revision => r.nodeLivenessRevision == revision

end Row

/-! ## The writes all statements are made of -/

/-- An update of `action_invocations` leaves the id alone. -/
abbrev KeepsId (f : Row → Row) : Prop := ∀ r, key (f r) = key r

/-- An update of `nodes` leaves the id alone. -/
abbrev KeepsNodeId (f : Node → Node) : Prop := ∀ n, key (f n) = key n

namespace Store

variable (s : Store)

/-- The row with an id. -/
def invocation? (id : InvocationId) : Option Row := s.invocations.rows.find? fun r => r.id == id

/-- The node with an id. -/
def node? (id : NodeId) : Option Node := s.nodes.rows.find? fun n => n.id == id

/-- `UPDATE nodes SET f WHERE p`. -/
def updateNodes (p : Node → Bool) (f : Node → Node) (hf : KeepsNodeId f) : Store :=
  { s with nodes := s.nodes.update p f hf }

/-- `UPDATE action_invocations SET f WHERE p`. -/
def updateInvocations (p : Row → Bool) (f : Row → Row) (hf : KeepsId f) : Store :=
  { s with invocations := s.invocations.update p f hf }

/-- What the trigger `action_invocations_stamp_node_liveness_revision_update` does to a row that
names a node: it takes the generation after the node's. -/
def stamped (r : Row) : Row :=
  match r.dispatchedNodeId with
  | none => r
  | some nodeId =>
    { r with
      nodeLivenessRevision :=
        match s.node? nodeId with
        | some node => node.livenessRevision + 1
        | none => r.nodeLivenessRevision + 1 }

/-- `reserved_agents` of a node. -/
def reservedAgents (nodeId : NodeId) : ℕ :=
  match s.node? nodeId with
  | some node => node.reservedAgents
  | none => 0

/-- How many open spawns hold a slot on a node: dispatched there with `spawn_reserved_at` set. -/
def heldOn (nodeId : NodeId) : ℕ := s.invocations.count fun r => r.hold == some nodeId

@[simp] lemma key_stamped (r : Row) : key (s.stamped r) = key r := by
  unfold stamped
  split <;> rfl

@[simp] lemma hold_stamped (r : Row) : (s.stamped r).hold = r.hold := by
  unfold stamped
  split <;> rfl

@[simp] lemma tokens_stamped (r : Row) : (s.stamped r).tokens = r.tokens := by
  unfold stamped
  split <;> rfl

/-- A stored row is determined by its id. -/
lemma row_ext {r r' : Row} (hr : r ∈ s.invocations) (hr' : r' ∈ s.invocations)
    (h : r.id = r'.id) : r = r' :=
  Table.eq_of_clash hr hr' (beq_iff_eq.mpr h)

lemma invocation?_eq_some {id : InvocationId} {r : Row} :
    s.invocation? id = some r ↔ r ∈ s.invocations ∧ r.id = id := by
  constructor
  · intro h
    exact ⟨List.mem_of_find?_eq_some h, by simpa using List.find?_some h⟩
  · rintro ⟨hr, rfl⟩
    cases h : s.invocation? r.id with
    | none => simpa using List.find?_eq_none.mp h r hr
    | some r' =>
      have hid : r'.id = r.id := by simpa using List.find?_some h
      exact congrArg some (s.row_ext (List.mem_of_find?_eq_some h) hr hid)

end Store

end Invocation
