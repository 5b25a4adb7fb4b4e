import Mathlib.Algebra.Group.Nat.Defs
import Relaycast.Interleaving.Program
import Relaycast.Invocation.Tables

/-!
# Invocation statements

Every statement that placing, dispatching, draining, retrying and completing a spawn sends to the
database or to a node's socket, as a function of the store, and the machine they make up.

The updates of `action_invocations` all have one shape, `UPDATE … SET … WHERE id = ? AND …
RETURNING`: a `Write` is such an update, with its guard and the row it leaves.  A statement that
embeds `new Date()` is answered with that reading; a readiness check, a lookup in a table outside
the area and a send are answered with their outcome.
-/

namespace Invocation

open Relational Interleaving

/-! ## Updates of an invocation -/

/-- The options of `dispatchNodeAttempt` and of `claimRegisteredActionHandoff`. -/
structure Attempt where
  nodeId : NodeId
  providerName : String
  pending : Bool
  retryAfterAt : Option Millis
  reservationHeld : Bool
  skipIncrementAttempts : Bool
  targetActionId : Option ActionId
  expectedNodeLivenessRevision : Option ℕ

/-- `opts.claim`: the tokens an exclusive claim pins, and the marker of a hold it reuses. -/
structure Claim where
  tokens : Tokens
  spawnReservedAt : Option Seconds

/-- The claim `restoreUnsentSpawnClaim` undoes. -/
structure UnsentClaim where
  dispatchAttempts : ℕ
  retryAfterAt : Option Millis
  restoreRetryAfterAt : Option Millis
  restoreDispatchAttempts : ℕ
  restoreDispatchedNodeId : Option NodeId
  restoreSpawnReservedAt : Option Seconds

/-- An update of one row of `action_invocations`. -/
inductive Write
  | snapshotInvocationHandlerNode (nodeId : NodeId) (revision : Option ℕ)
  | bindInvocationToRegisteredNodeAction (nodeId : NodeId) (providerName : String)
      (actionId : ActionId) (actionName : String)
  | dispatchNodeAttempt (attempt : Attempt) (claim : Option Claim)
      (expectedAction : Option (ActionId × String))
  | restoreUnsentSpawnClaim (claim : UnsentClaim)
  | claimRegisteredActionHandoff (attempt : Attempt) (expectedActionId : ActionId)
      (actionName : String)
  | acceptRegisteredAction (nodeId : NodeId) (providerName : String) (actionId : ActionId)
      (invocationActionName actionName : String) (dispatchAttempt : ℕ)
  | settleRegisteredActionSendFailure (nodeId : NodeId) (providerName : String)
      (actionId : ActionId) (dispatchAttempts : ℕ)
  | settleDeletedRegisteredAction (revision : Option ℕ)
  | failOpenInvocation (error : String) (revision : Option ℕ)
  | failNeverDispatchedInvocation (error : String)
  | markUnsentNativeSpawn (nodeId : NodeId)
  | claimUnsentNativeSpawn
  | deferDrain
  | clearHold (seen : Tokens) (heldAt : Seconds) (revision : Option ℕ)
  | resetShadowed (revision : Option ℕ)
  | resetUnplaced (seen : Tokens) (retryAfterAt : Option Millis) (revision : Option ℕ)
  | detach (nodeId : NodeId) (revision dispatchAttempts : ℕ)
  | completeNodeInvocation (nodeId : NodeId) (providerName : String)
      (output error : Option String)

/-- `NODE_DRAIN_REQUEUE_RETRY_MS`. -/
def nodeDrainRequeueRetryMs : Millis := 5000

/-- `nextRetryAfter`: `ACTION_RETRY_BACKOFF_MS` doubled with every attempt, at most a minute. -/
def nextRetryAfter (attempts : ℕ) (now : Millis) : Millis :=
  now + min (5000 * 2 ^ (attempts - 1)) 60000

/-- The columns `dispatchNodeAttempt` and `claimRegisteredActionHandoff` set. -/
def Row.attempted (a : Attempt) (actionId : Option ActionId) (now : Millis) (r : Row) : Row :=
  { r with
    status := if a.pending then .pending else .dispatched
    dispatchedAt := if a.pending then none else some (toSeconds now)
    retryAfterAt := a.retryAfterAt.map toSeconds
    handlerNodeId := r.handlerNodeId <|> some a.nodeId
    dispatchedNodeId := some a.nodeId
    dispatchedProvider := some a.providerName
    spawnReservedAt := if a.reservationHeld then some (toSeconds now) else none
    actionId := actionId
    attemptedNodeIds :=
      if a.skipIncrementAttempts then r.attemptedNodeIds else r.attemptedNodeIds ++ [a.nodeId]
    dispatchAttempts :=
      if a.skipIncrementAttempts then r.dispatchAttempts else r.dispatchAttempts + 1 }

/-- The columns a failure sets, besides those of the marker. -/
def Row.failedWith (error : String) (now : Millis) (r : Row) : Row :=
  { r with status := .failed, error := some error, completedAt := some (toSeconds now) }

namespace Write

/-- The row an update leaves, before the trigger. -/
def set : Write → Millis → Row → Row
  | snapshotInvocationHandlerNode nodeId _, _, r =>
    { r with handlerNodeId := r.handlerNodeId <|> some nodeId }
  | bindInvocationToRegisteredNodeAction _ _ actionId _, _, r =>
    { r with actionId := some actionId, invocationOrigin := .registeredAction }
  | dispatchNodeAttempt a _ _, now, r => r.attempted a (a.targetActionId <|> r.actionId) now
  | restoreUnsentSpawnClaim c, _, r =>
    { r with
      status := .pending
      dispatchedAt := none
      dispatchedNodeId := c.restoreDispatchedNodeId
      spawnReservedAt := c.restoreSpawnReservedAt
      retryAfterAt := c.restoreRetryAfterAt.map toSeconds
      dispatchAttempts := c.restoreDispatchAttempts }
  | claimRegisteredActionHandoff a expectedActionId _, now, r =>
    r.attempted a (a.targetActionId <|> some expectedActionId) now
  | acceptRegisteredAction _ _ _ _ _ dispatchAttempt, _, r =>
    { r with providerAcceptedAttempt := some dispatchAttempt }
  | settleRegisteredActionSendFailure .., now, r => r.failedWith "node_dispatch_unavailable" now
  | settleDeletedRegisteredAction _, now, r =>
    { r.failedWith "action_deleted" now with spawnReservedAt := none }
  | failOpenInvocation error _, now, r | failNeverDispatchedInvocation error, now, r =>
    { r.failedWith error now with spawnReservedAt := none }
  | markUnsentNativeSpawn _, now, r => { r with handlerUnreachableSince := some (toSeconds now) }
  | claimUnsentNativeSpawn, _, r => { r with handlerUnreachableSince := none }
  | deferDrain, now, r =>
    { r with retryAfterAt := some (toSeconds (now + nodeDrainRequeueRetryMs)) }
  | clearHold .., _, r => { r with spawnReservedAt := none }
  | resetShadowed _, _, r =>
    { r with status := .pending, dispatchedAt := none, spawnReservedAt := none,
             retryAfterAt := none }
  | resetUnplaced seen retryAfterAt _, now, r =>
    { r with
      status := .pending
      dispatchedNodeId := none
      dispatchedProvider := none
      dispatchedAt := none
      spawnReservedAt := none
      retryAfterAt := some (toSeconds
        (retryAfterAt.getD (nextRetryAfter (seen.dispatchAttempts + 1) now))) }
  | detach _ _ dispatchAttempts, now, r =>
    { r with
      status := .pending
      dispatchedNodeId := none
      dispatchedProvider := none
      dispatchedAt := none
      spawnReservedAt := none
      retryAfterAt := some (toSeconds (nextRetryAfter (dispatchAttempts + 1) now)) }
  | completeNodeInvocation _ _ output error, now, r =>
    { r with
      output := output
      error := error
      status := if error.any (· != "") then .failed else .completed
      completedAt := some (toSeconds now)
      spawnReservedAt := none }

/-- Does an update set a column the liveness trigger watches: `status`, `dispatched_node_id`,
`dispatched_at` or `dispatch_attempts`? -/
def stamps : Write → Bool
  | snapshotInvocationHandlerNode .. | bindInvocationToRegisteredNodeAction ..
  | acceptRegisteredAction .. | markUnsentNativeSpawn .. | claimUnsentNativeSpawn | deferDrain
  | clearHold .. => false
  | _ => true

/-- The row an update leaves. -/
def image (w : Write) (s : Store) (now : Millis) (r : Row) : Row :=
  if w.stamps then s.stamped (w.set now r) else w.set now r

lemma image_of_stamps {w : Write} (hw : w.stamps = true) (s : Store) (now : Millis) (r : Row) :
    w.image s now r = s.stamped (w.set now r) := by
  unfold image
  rw [if_pos hw]

lemma key_set (w : Write) (now : Millis) : KeepsId (w.set now) := fun _ => by cases w <;> rfl

lemma key_image (w : Write) (s : Store) (now : Millis) : KeepsId (w.image s now) := by
  intro r
  unfold image
  split_ifs
  · rw [Store.key_stamped, w.key_set]
  · exact w.key_set now r

end Write

namespace Store

variable (s : Store)

/-- `registeredActionDispatchPredicate`: the action is active and the node's provider handles
it. -/
def actionDispatches (actionId : ActionId) (actionName : String) (nodeId : NodeId)
    (providerName : String) : Bool :=
  s.actions.any fun a => a.id == actionId && a.name == actionName && a.isActive &&
    a.handlerNodeId == nodeId && a.handlerProvider.getD defaultProviderName == providerName

/-- `fetchNodeAction`. -/
def nodeAction (nodeId : NodeId) (actionName : String) : Option Action :=
  s.actions.find? fun a => a.handlerNodeId == nodeId && a.name == actionName && a.isActive

/-- `EXISTS (SELECT 1 FROM actions WHERE id = ?)`. -/
def hasAction (actionId : ActionId) : Bool := s.actions.any fun a => a.id == actionId

end Store

/-- The `WHERE` of an update, besides the id. -/
def Write.guard (s : Store) : Write → Row → Bool
  | .snapshotInvocationHandlerNode _ revision, r => r.status.isOpen && r.hasRevision revision
  | .bindInvocationToRegisteredNodeAction nodeId providerName actionId actionName, r =>
    r.invocationOrigin == .builtin && r.actionId.isNone && r.status.isOpen &&
      r.dispatchAttempts == 0 && s.actionDispatches actionId actionName nodeId providerName
  | .dispatchNodeAttempt a claim expectedAction, r =>
    (match claim with
      | none => r.status.isOpen
      | some c => r.tokens == c.tokens &&
        (c.spawnReservedAt.isNone || r.spawnReservedAt == c.spawnReservedAt)) &&
    r.hasRevision a.expectedNodeLivenessRevision &&
    (match expectedAction with
      | none => true
      | some (id, name) => r.invocationOrigin == .registeredAction && r.actionId == some id &&
        s.hasAction id && (a.targetActionId.isNone ||
          s.actionDispatches (a.targetActionId.getD id) name a.nodeId a.providerName))
  | .restoreUnsentSpawnClaim c, r =>
    (r.status == .pending || r.status == .dispatched) && r.dispatchAttempts == c.dispatchAttempts &&
      r.retryAfterAt == c.retryAfterAt.map toSeconds
  | .claimRegisteredActionHandoff a expectedActionId actionName, r =>
    r.invocationOrigin == .registeredAction && r.actionId == some expectedActionId &&
      r.status.isOpen && r.hasRevision a.expectedNodeLivenessRevision &&
      !(r.actionId == some (a.targetActionId.getD expectedActionId) &&
        r.dispatchedNodeId == some a.nodeId &&
        r.dispatchedProvider.getD defaultProviderName == a.providerName &&
        (r.status == .dispatched || r.status == .invoked)) &&
      s.hasAction expectedActionId &&
      (match a.targetActionId with
        | none => true
        | some id => s.actionDispatches id actionName a.nodeId a.providerName)
  | .acceptRegisteredAction nodeId providerName actionId invocationActionName actionName attempt,
      r =>
    r.invocationOrigin == .registeredAction && r.actionId == some actionId &&
      r.actionName == invocationActionName && r.dispatchedNodeId == some nodeId &&
      r.dispatchedProvider == some providerName && r.dispatchAttempts == attempt &&
      r.providerAcceptedAttempt != some attempt && r.status == .dispatched &&
      s.actionDispatches actionId actionName nodeId providerName
  | .settleRegisteredActionSendFailure nodeId providerName actionId dispatchAttempts, r =>
    r.invocationOrigin == .registeredAction && r.actionId == some actionId &&
      r.dispatchedNodeId == some nodeId && r.dispatchedProvider == some providerName &&
      r.dispatchAttempts == dispatchAttempts && r.status.isOpen
  | .settleDeletedRegisteredAction revision, r =>
    r.isDeletedRegisteredAction && r.status.isOpen && r.hasRevision revision
  | .failOpenInvocation _ revision, r => r.status.isOpen && r.hasRevision revision
  | .failNeverDispatchedInvocation _, r =>
    r.status.isOpen && r.dispatchAttempts == 0 && r.dispatchedNodeId.isNone
  | .markUnsentNativeSpawn nodeId, r => r.isUnsentNativeSpawnOn (some nodeId)
  | .claimUnsentNativeSpawn, r =>
    r.isUnsentNativeSpawnOn none && r.handlerUnreachableSince.isSome
  | .deferDrain, r => r.status == .pending
  | .clearHold seen heldAt revision, r =>
    r.tokens == seen && r.hasRevision revision && r.spawnReservedAt == some heldAt
  | .resetShadowed revision, r => r.status.isOpen && r.hasRevision revision
  | .resetUnplaced seen _ revision, r => r.tokens == seen && r.hasRevision revision
  | .detach nodeId revision _, r =>
    r.dispatchedNodeId == some nodeId && r.status.isOpen && r.nodeLivenessRevision == revision
  | .completeNodeInvocation nodeId providerName _ _, r =>
    r.dispatchedNodeId == some nodeId && r.dispatchedProvider == some providerName &&
      r.status.isOpen

namespace Store

variable (s : Store)

/-- The row an update hits. -/
def hit (id : InvocationId) (w : Write) : Option Row :=
  s.invocations.rows.find? fun r => r.id == id && w.guard s r

lemma hit_eq_some {id : InvocationId} {w : Write} {r : Row} (h : s.hit id w = some r) :
    r ∈ s.invocations ∧ r.id = id ∧ w.guard s r = true := by
  have hp := List.find?_some h
  simp only [Bool.and_eq_true, beq_iff_eq] at hp
  exact ⟨List.mem_of_find?_eq_some h, hp.1, hp.2⟩

/-- Execute an update; the reply is what `RETURNING` gives back. -/
def write (id : InvocationId) (w : Write) (now : Millis) : Option Row × Store :=
  ((s.hit id w).map (w.set now),
    s.updateInvocations (fun r => r.id == id && w.guard s r) (w.image s now) (w.key_image s now))

/-- The row of an id after an update. -/
lemma invocation?_write (x id : InvocationId) (w : Write) (now : Millis) :
    (s.write x w now).2.invocation? id =
      (s.invocation? id).map fun r => if r.id == x && w.guard s r then w.image s now r else r := by
  have hid : ∀ r, ((w.image s now r).id == id) = (r.id == id) := fun r => by
    rw [show (w.image s now r).id = r.id from w.key_image s now r]
  exact Table.find?_update (w.key_image s now) hid

/-- An update that hits leaves its image. -/
lemma invocation?_write_of_hit {id : InvocationId} {w : Write} {r : Row}
    (h : s.hit id w = some r) (now : Millis) :
    s.invocation? id = some r ∧ (s.write id w now).2.invocation? id = some (w.image s now r) := by
  obtain ⟨hr, hid, hguard⟩ := s.hit_eq_some h
  have hrow : s.invocation? id = some r := s.invocation?_eq_some.mpr ⟨hr, hid⟩
  refine ⟨hrow, ?_⟩
  rw [s.invocation?_write, hrow, Option.map_some, if_pos (by simp [hid, hguard])]

/-- An update that hits no row leaves every row. -/
lemma invocation?_write_of_miss {x : InvocationId} {w : Write} (h : s.hit x w = none)
    (id : InvocationId) (now : Millis) :
    (s.write x w now).2.invocation? id = s.invocation? id := by
  rw [s.invocation?_write]
  cases hrow : s.invocation? id with
  | none => rfl
  | some r =>
    have hr := (s.invocation?_eq_some.mp hrow).1
    rw [Option.map_some, if_neg (List.find?_eq_none.mp h r hr)]

/-! ## Capacity -/

/-- Does `reserveNodeCapacity` find room on the node? -/
def reservable (n : Node) : Bool :=
  (s.nodeLivenessAuthority || (n.status == "online" && n.handlersLive)) &&
    (n.maxAgents == 0 || decide (n.activeAgents + n.reservedAgents < n.maxAgents))

/-- `reserveNodeCapacity`: one slot more, if there is room. -/
def reserveNodeCapacity (nodeId : NodeId) : Bool × Store :=
  ((s.nodes.rows.any fun n => n.id == nodeId && s.reservable n),
    s.updateNodes (fun n => n.id == nodeId && s.reservable n)
      (fun n => { n with reservedAgents := n.reservedAgents + 1 }) fun _ => rfl)

/-- `releaseNodeCapacity`: one slot less, and never below zero. -/
def releaseNodeCapacity (nodeId : NodeId) : Store :=
  s.updateNodes (fun n => n.id == nodeId)
    (fun n => { n with reservedAgents := if n.reservedAgents > 1 then n.reservedAgents - 1 else 0 })
    fun _ => rfl

/-! ## Inserts and deletes -/

/-- A row as `createInvocation` inserts it for a spawn. -/
def createdRow (id : InvocationId) (callerId : Option AgentId) (input : SpawnInput) : Row where
  id := id
  actionId := none
  actionName := "spawn"
  invocationOrigin := .builtin
  callerId := callerId
  handlerNodeId := none
  input := input
  output := none
  error := none
  status := .pending
  dispatchedNodeId := none
  dispatchedAt := none
  nodeLivenessRevision := 0
  providerAcceptedAttempt := none
  spawnReservedAt := none
  attemptedNodeIds := []
  dispatchAttempts := 0
  dispatchedProvider := none
  retryAfterAt := none
  handlerUnreachableSince := none
  completedAt := none

/-- `createInvocation`: the row, unless its id is taken. -/
def createInvocation (id : InvocationId) (callerId : Option AgentId) (input : SpawnInput) :
    Bool × Store :=
  (!s.invocations.conflicts (createdRow id callerId input),
    { s with invocations := s.invocations.insertOrIgnore (createdRow id callerId input) })

/-- The claim of a spawn that could not be placed is deleted while nothing has touched it. -/
def deleteUnplaced (id : InvocationId) : Store :=
  { s with
    invocations := s.invocations.deleteWhere fun r =>
      r.id == id && r.status == .pending && r.handlerNodeId.isNone && r.dispatchedNodeId.isNone &&
        r.spawnReservedAt.isNone && r.dispatchAttempts == 0 }

/-! ## Selects -/

/-- The nodes `claimSpawnNode` tries for a spawn that names none, in the order `order` in which
readiness and load rank them. -/
def eligibleNodes (capability : String) (excluded : List NodeId) (order : List NodeId) :
    List Node :=
  order.filterMap fun id => (s.node? id).filter fun n =>
    !excluded.contains n.id && n.capabilities.contains capability &&
      (n.maxAgents == 0 || decide (n.activeAgents + n.reservedAgents < n.maxAgents))

/-- The rows `drainNodeInvocations` selects, each with its action; rows are stored in the order in
which they were created. -/
def drainRows (nodeId : NodeId) (includeDeferred : Bool) (now : Millis) :
    List (Row × Option Action) :=
  let actionOf := fun r : Row => s.actions.find? fun a => r.actionId == some a.id
  (s.invocations.select fun r =>
    r.status == .pending &&
    (includeDeferred || r.retryAfterAt.all fun at' => decide (at' ≤ toSeconds now)) &&
    (r.dispatchedNodeId == some nodeId ||
      (actionOf r).any (fun a => a.handlerNodeId == nodeId) ||
      (r.isUnsentNativeSpawnOn (some nodeId) && r.handlerUnreachableSince.isSome))).map
  fun r => (r, actionOf r)

/-- The open rows dispatched to a node, older than a claimed generation if one is given. -/
def openRowsOn (nodeId : NodeId) (claimRevision : Option ℕ) : List Row :=
  s.invocations.select fun r => r.dispatchedNodeId == some nodeId && r.status.isOpen &&
    match claimRevision with
    | none => true
    | some revision => decide (r.nodeLivenessRevision < revision)

/-- Dispatched rows whose provider has not answered since `cutoff`. -/
def timedOutRows (cutoff : Millis) : List Row :=
  s.invocations.select fun r => r.status == .dispatched &&
    r.dispatchedAt.any fun at' => decide (at' ≤ toSeconds cutoff)

/-- Pending rows whose deadline has come. -/
def duePendingRows (now : Millis) : List Row :=
  s.invocations.select fun r => r.status == .pending &&
    r.retryAfterAt.any fun at' => decide (at' ≤ toSeconds now)

end Store

/-! ## The machine -/

/-- What the call that updates a row accounts for, when the update writes the row's marker or
closes the row.  It is not part of the statement and `run` does not see it. -/
inductive Accounts
  /-- The row holds no slot. -/
  | nothing
  /-- The row holds a slot of that node, which the call releases if the update hits. -/
  | takes (nodeId : NodeId)
  /-- The row holds a slot of that node, and goes on holding it. -/
  | reuses (nodeId : NodeId)
  /-- The row holds the slot the call has reserved and stored there; the call releases it. -/
  | returns (nodeId : NodeId)

/-- The outcome of handing a frame to a provider's socket. -/
inductive SendOutcome
  | sent
  | refused
  | threw
  deriving DecidableEq

/-- The statements.  `stored` says of a release that a claim has stored the slot on a row. -/
inductive Stmt
  | write (id : InvocationId) (w : Write) (accounts : Accounts)
  | reserveNodeCapacity (nodeId : NodeId)
  | releaseNodeCapacity (nodeId : NodeId) (stored : Bool)
  | createInvocation (id : InvocationId) (callerId : Option AgentId) (input : SpawnInput)
  | deleteUnplaced (id : InvocationId)
  | handlersDown (nodeId : NodeId)
  | getInvocation (id : InvocationId)
  | heldRow (id : InvocationId) (revision : Option ℕ)
  | completionRow (id : InvocationId) (providerName : String)
  | drainRows (nodeId : NodeId) (includeDeferred : Bool) (now : Millis)
  | openRowsOn (nodeId : NodeId) (claimRevision : Option ℕ)
  | timedOutRows (cutoff : Millis)
  | duePendingRows (now : Millis)
  | getNode (nodeId : NodeId)
  | getNodeByName (name : String)
  | eligibleNodes (capability : String) (excluded : List NodeId)
  | fetchNodeAction (nodeId : NodeId) (actionName : String)
  | callerLocation (callerId : AgentId)
  | nodeReady (nodeId : NodeId)
  | capacityProviderName (nodeId : NodeId) (capability : String)
  | isNodeProviderLive (nodeId : NodeId) (providerName : String)
  | isHandlerConnectionLive (nodeId : NodeId) (providerName : String)
  | isProviderConnected (nodeId : NodeId) (providerName : String)
  | sendToProvider (nodeId : NodeId) (providerName : String) (id : InvocationId)
  | dateNow

/-- What the outside world contributes. -/
def Stmt.Answer : Stmt → Type
  | .write .. | .dateNow => Millis
  | .eligibleNodes .. => List NodeId
  | .callerLocation .. => Option NodeId
  | .capacityProviderName .. => Option String
  | .nodeReady .. | .isNodeProviderLive .. | .isHandlerConnectionLive ..
  | .isProviderConnected .. => Bool
  | .sendToProvider .. => SendOutcome
  | _ => Unit

/-- What each statement replies. -/
def Stmt.Reply : Stmt → Type
  | .write .. | .getInvocation .. | .heldRow .. | .completionRow .. => Option Row
  | .reserveNodeCapacity .. | .createInvocation .. | .nodeReady .. | .isNodeProviderLive ..
  | .isHandlerConnectionLive .. | .isProviderConnected .. => Bool
  | .releaseNodeCapacity .. | .deleteUnplaced .. | .handlersDown .. => Unit
  | .drainRows .. => List (Row × Option Action)
  | .openRowsOn .. | .timedOutRows .. | .duePendingRows .. => List Row
  | .getNode .. | .getNodeByName .. => Option Node
  | .eligibleNodes .. => List Node
  | .fetchNodeAction .. => Option Action
  | .callerLocation .. => Option NodeId
  | .capacityProviderName .. => Option String
  | .sendToProvider .. => SendOutcome
  | .dateNow => Millis

/-- The language of the invocation functions. -/
abbrev lang : Language where
  Stmt := Stmt
  Answer := Stmt.Answer
  Reply := Stmt.Reply

/-- Issue one statement of the invocation functions and return its reply. -/
abbrev await (q : Stmt) : Prog lang q.Reply := Prog.ask (L := lang) q

/-- Execute one statement. -/
def run : (q : Stmt) → q.Answer → Store → q.Reply × Store
  | .write id w _, (now : Millis), s => s.write id w now
  | .reserveNodeCapacity nodeId, _, s => s.reserveNodeCapacity nodeId
  | .releaseNodeCapacity nodeId _, _, s => ((), s.releaseNodeCapacity nodeId)
  | .createInvocation id callerId input, _, s => s.createInvocation id callerId input
  | .deleteUnplaced id, _, s => ((), s.deleteUnplaced id)
  | .handlersDown nodeId, _, s =>
    ((), s.updateNodes (fun n => n.id == nodeId) (fun n => { n with handlersLive := false })
      fun _ => rfl)
  | .getInvocation id, _, s => (s.invocation? id, s)
  | .heldRow id revision, _, s =>
    ((s.invocation? id).filter fun r => r.status.isOpen && r.hasRevision revision, s)
  | .completionRow id providerName, _, s =>
    ((s.invocation? id).filter fun r => r.dispatchedProvider == some providerName, s)
  | .drainRows nodeId includeDeferred now, _, s => (s.drainRows nodeId includeDeferred now, s)
  | .openRowsOn nodeId claimRevision, _, s => (s.openRowsOn nodeId claimRevision, s)
  | .timedOutRows cutoff, _, s => (s.timedOutRows cutoff, s)
  | .duePendingRows now, _, s => (s.duePendingRows now, s)
  | .getNode nodeId, _, s => (s.node? nodeId, s)
  | .getNodeByName name, _, s => (s.nodes.rows.find? fun n => n.name == name, s)
  | .eligibleNodes capability excluded, (order : List NodeId), s =>
    (s.eligibleNodes capability excluded order, s)
  | .fetchNodeAction nodeId actionName, _, s => (s.nodeAction nodeId actionName, s)
  | .callerLocation _, (nodeId : Option NodeId), s => (nodeId, s)
  | .nodeReady _, (ready : Bool), s => (ready, s)
  | .capacityProviderName _ _, (name : Option String), s => (name, s)
  | .isNodeProviderLive _ _, (live : Bool), s => (live, s)
  | .isHandlerConnectionLive _ _, (live : Bool), s => (live, s)
  | .isProviderConnected _ _, (connected : Bool), s => (connected, s)
  | .sendToProvider _ _ _, (outcome : SendOutcome), s => (outcome, s)
  | .dateNow, (now : Millis), s => (now, s)

/-- What happens to the tables outside the invocation functions: a node's row changes, except for
its reservations, and actions are registered, changed and deleted. -/
inductive Drift
  | profile (nodeId : NodeId) (name : String) (capabilities : List String) (status : String)
      (handlersLive : Bool) (maxAgents activeAgents livenessRevision : ℕ)
  | actions (actions : List Action)

/-- What a drift does.  Deleting an action clears `action_id` through the foreign key. -/
def drift : Drift → Store → Store
  | .profile nodeId name capabilities status handlersLive maxAgents activeAgents revision, s =>
    s.updateNodes (fun n => n.id == nodeId)
      (fun n => { n with
        name := name
        capabilities := capabilities
        status := status
        handlersLive := handlersLive
        maxAgents := maxAgents
        activeAgents := activeAgents
        livenessRevision := revision })
      fun _ => rfl
  | .actions actions, s =>
    let s' := s.updateInvocations
      (fun r => r.actionId.any fun id => !actions.any fun a => a.id == id)
      (fun r => { r with actionId := none }) fun _ => rfl
    { s' with actions := actions }

/-- The machine of the invocation functions. -/
def machine : Machine lang Store where
  run := run
  Drift := Drift
  drift := drift

end Invocation
