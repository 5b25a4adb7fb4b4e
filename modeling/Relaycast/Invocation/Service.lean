import Relaycast.Interleaving.Run
import Relaycast.Invocation.Retry

/-!
# The invocation service

The calls that can be made on spawn invocations, and the system in which any number of them run
concurrently.  A run starts from a store in which no slot is reserved.
-/

namespace Invocation

open Relational Interleaving

/-- A call of one of the invocation functions, with its arguments.  `rounds` bounds a retry
loop. -/
inductive Call
  | dispatchSpawn (args : SpawnArgs)
  | drainNodeInvocations (nodeId : NodeId) (includeDeferred : Bool)
  | sweepTimedOutInvocations (timeoutMs : Millis) (rounds : ℕ)
  | rescheduleInvocationsForLostNode (nodeId : NodeId) (claimRevision : Option ℕ) (rounds : ℕ)
  | detachInvocationsFromLostNode (nodeId : NodeId) (claimRevision : ℕ)
  | completeNodeInvocation (nodeId : NodeId) (providerName : String) (id : InvocationId)
      (data : Completion) (rounds : ℕ)

/-- What a call returns. -/
def Call.Result : Call → Type
  | .dispatchSpawn _ => Except Thrown SpawnResult
  | .completeNodeInvocation .. => Option Row
  | _ => ℕ

/-- The body of a call. -/
def Call.body : (c : Call) → Prog lang c.Result
  | .dispatchSpawn args => Invocation.dispatchSpawn args
  | .drainNodeInvocations nodeId includeDeferred =>
    Invocation.drainNodeInvocations nodeId includeDeferred
  | .sweepTimedOutInvocations timeoutMs rounds =>
    Invocation.sweepTimedOutInvocations timeoutMs rounds
  | .rescheduleInvocationsForLostNode nodeId claimRevision rounds =>
    Invocation.rescheduleInvocationsForLostNode nodeId claimRevision rounds
  | .detachInvocationsFromLostNode nodeId claimRevision =>
    Invocation.detachInvocationsFromLostNode nodeId claimRevision
  | .completeNodeInvocation nodeId providerName id data rounds =>
    Invocation.completeNodeInvocation nodeId providerName id data rounds

/-- The invocation service. -/
def service : System lang Store Call Call.Result where
  toMachine := machine
  body := Call.body
  init s := (∀ n ∈ s.nodes, n.reservedAgents = 0) ∧ ∀ r ∈ s.invocations, r.spawnReservedAt = none

/-- The outside world of a run in which every clock reads `now`, every node is ready and connected,
the nodes are tried in the order `order`, and every send comes out as `outcome`. -/
def steady (now : Millis) (order : List NodeId) (outcome : SendOutcome) : (q : Stmt) → q.Answer
  | .write .. | .dateNow => now
  | .eligibleNodes .. => order
  | .callerLocation .. => none
  | .capacityProviderName .. => none
  | .nodeReady .. | .isNodeProviderLive .. | .isHandlerConnectionLive ..
  | .isProviderConnected .. => true
  | .sendToProvider .. => outcome
  | .reserveNodeCapacity .. | .releaseNodeCapacity .. | .createInvocation .. | .deleteUnplaced ..
  | .handlersDown .. | .getInvocation .. | .heldRow .. | .completionRow .. | .drainRows ..
  | .openRowsOn .. | .timedOutRows .. | .duePendingRows .. | .getNode .. | .getNodeByName ..
  | .fetchNodeAction .. => ()

/-! ## A small fleet -/

/-- A live node of capacity two. -/
def idleNode (id : NodeId) : Node where
  id := id
  name := id
  capabilities := ["spawn:claude"]
  status := "online"
  handlersLive := true
  maxAgents := 2
  activeAgents := 0
  reservedAgents := 0
  livenessRevision := 0

/-- Two live nodes and no invocation. -/
def twoNodes : Store where
  nodeLivenessAuthority := false
  nodes := (Table.empty.insertOrIgnore (idleNode "n")).insertOrIgnore (idleNode "m")
  invocations := Table.empty
  actions := []

lemma init_twoNodes : service.init twoNodes := by
  refine ⟨?_, fun r hr => absurd hr (Table.not_mem_empty r)⟩
  show ∀ n ∈ twoNodes.nodes.rows, n.reservedAgents = 0
  decide +kernel

/-- A request for one claude. -/
def spawnRequest (id : InvocationId) : Call :=
  .dispatchSpawn
    { invocationId := id, keyed := false, input := ⟨"spawn:claude", .anywhere, false⟩,
      callerId := none, targetNodeId := none, bypassShadow := false }

end Invocation
