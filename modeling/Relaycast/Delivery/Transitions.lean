import Relaycast.Delivery.Statements
import Relaycast.Relational.Chunks

/-!
# Delivery transitions

The functions that move a delivery through its lifecycle, each as the sequence of statements it
awaits: a read of the row, a guarded update, and a re-read when the update matched nothing.
-/

namespace Delivery

open Relational Interleaving

/-- `serializeDelivery`: a delivery as callers see it. -/
structure SerializedDelivery where
  id : DeliveryId
  messageId : MessageId
  channelId : ChannelId
  agentId : AgentId
  status : DeliveryStatus
  seq : ℕ
  locationType : String
  locationNodeId : Option NodeId
  routeNodeId : Option NodeId
  routeNodeKind : Option String
  routeNodeRole : Option String
  deliveryAdapter : Option String
  dispatchAttempts : ℕ
  nextAttemptAt : Option Seconds
  lastDispatchError : Option String
  mode : String
  reason : Option String
  priority : String
  retryable : Option Bool
  error : Option String
  availableAt : Option Seconds
  deadline : Option Seconds
  expiresAt : Option Seconds
  deliveredAt : Option Seconds
  ackedAt : Option Seconds
  deadLetteredAt : Option Seconds
  createdAt : Seconds
  updatedAt : Option Seconds

/-- `serializeDelivery`. -/
def serializeDelivery (row : DeliveryWithChannel) : SerializedDelivery where
  id := row.delivery.id
  messageId := row.delivery.messageId
  channelId := row.channelId
  agentId := row.delivery.agentId
  status := row.delivery.status
  seq := row.delivery.seq
  locationType := row.delivery.locationType
  locationNodeId := row.delivery.locationNodeId
  routeNodeId := row.delivery.routeNodeId
  routeNodeKind := row.delivery.routeNodeKind
  routeNodeRole := row.delivery.routeNodeRole
  deliveryAdapter := row.delivery.deliveryAdapter
  dispatchAttempts := row.delivery.dispatchAttempts
  nextAttemptAt := row.delivery.nextAttemptAt
  lastDispatchError := row.delivery.lastDispatchError
  mode := row.delivery.mode
  reason := row.delivery.reason
  priority := row.delivery.priority
  retryable := row.delivery.retryable
  error := row.delivery.error
  availableAt := row.delivery.availableAt
  deadline := row.delivery.deadline
  expiresAt := row.delivery.expiresAt
  deliveredAt := row.delivery.deliveredAt
  ackedAt := row.delivery.ackedAt
  deadLetteredAt := row.delivery.deadLetteredAt
  createdAt := row.delivery.createdAt
  updatedAt := row.delivery.updatedAt

/-- `TransitionResult`: the (possibly unchanged) delivery, and whether this call changed it. -/
structure TransitionResult where
  delivery : SerializedDelivery
  changed : Bool

/-- `resolveTransition`: report the updated row as changed, or re-read and report the current one
as unchanged. -/
def resolveTransition (agentId : AgentId) (deliveryId : DeliveryId) (updated : Option Row)
    (channelId : ChannelId) : Prog lang (Option TransitionResult) :=
  match updated with
  | some row => return some ⟨serializeDelivery ⟨row, channelId⟩, true⟩
  | none => do
    let current : Option DeliveryWithChannel ← await (.getOwnedDelivery agentId deliveryId)
    return current.map fun current => ⟨serializeDelivery current, false⟩

/-- `ackDelivery`. -/
def ackDelivery (agentId : AgentId) (deliveryId : DeliveryId) :
    Prog lang (Option TransitionResult) := do
  let existing : Option DeliveryWithChannel ← await (.getOwnedDelivery agentId deliveryId)
  match existing with
  | none => return none
  | some existing =>
    if existing.delivery.status = .acked then
      return some ⟨serializeDelivery existing, false⟩
    else
      -- A single ack may be out of order, so it does not advance the cumulative cursor.
      let updated : List Row ← await (.ackRows agentId [existing] none)
      resolveTransition agentId deliveryId updated.head? existing.channelId

/-- `failDelivery`. -/
def failDelivery (agentId : AgentId) (deliveryId : DeliveryId) (error : Option String)
    (retryable : Option Bool) : Prog lang (Option TransitionResult) := do
  let existing : Option DeliveryWithChannel ← await (.getOwnedDelivery agentId deliveryId)
  match existing with
  | none => return none
  | some existing =>
    if existing.delivery.status.isSettled then
      return some ⟨serializeDelivery existing, false⟩
    else
      let updated : Option Row ← await (.failUpdate deliveryId error retryable)
      resolveTransition agentId deliveryId updated existing.channelId

/-- `WorkspaceDeliveryCapacityError`. -/
structure WorkspaceDeliveryCapacityError where
  code : String
  message : String
  retryable : Bool
  status : ℕ
  deriving DecidableEq

/-- The error of a defer that may not restore a failed delivery. -/
def restoreCapacityError : WorkspaceDeliveryCapacityError where
  code := "workspace_delivery_depth_exceeded"
  message := "Workspace delivery depth cap prevents restoring a failed delivery"
  retryable := true
  status := 429

/-- The re-read after a defer matched nothing: was it the workspace cap that prevented it? -/
def deferRefused (current : Option DeliveryWithChannel) (now : Millis) : Bool :=
  current.any fun c =>
    decide (c.delivery.status = .failed) &&
      match c.delivery.expiresAt with
      | none => true
      | some e => decide (now < e * 1000)

/-- `deferDelivery`. -/
def deferDelivery (agentId : AgentId) (deliveryId : DeliveryId) (availableAt : Millis)
    (reason : Option String) (workspacePolicy : Option WorkspaceDeliveryPolicy) :
    Prog lang (Except WorkspaceDeliveryCapacityError (Option TransitionResult)) := do
  let existing : Option DeliveryWithChannel ← await (.getOwnedDelivery agentId deliveryId)
  match existing with
  | none => return .ok none
  | some existing =>
    if existing.delivery.status.isTerminal then
      return .ok (some ⟨serializeDelivery existing, false⟩)
    else
      let updated : Option Row ← await (.deferUpdate deliveryId availableAt reason workspacePolicy)
      if updated.isNone && workspacePolicy.isSome then
        let current : Option DeliveryWithChannel ← await (.getOwnedDelivery agentId deliveryId)
        let now : Millis ← await .dateNow
        if deferRefused current now then
          return .error restoreCapacityError
        else
          .ok <$> resolveTransition agentId deliveryId updated existing.channelId
      else
        .ok <$> resolveTransition agentId deliveryId updated existing.channelId

/-! ## Cumulative acknowledgement -/

/-- The pages of fifty that a batched statement is issued for. -/
def pages {α : Type} (xs : List α) : List (List α) := slices deliveryExpiryBatchSize xs.length xs

/-- The pages of a list are the list. -/
@[simp] lemma flatten_pages {α : Type} (xs : List α) : (pages xs).flatten = xs :=
  flatten_slices (by decide) le_rfl

/-- The members of a set built from a list are distinct. -/
lemma nodup_eraseDups {α : Type} [DecidableEq α] (xs : List α) : xs.eraseDups.Nodup := by
  induction h : xs.length using Nat.strong_induction_on generalizing xs with
  | _ n ih =>
    cases xs with
    | nil => simp
    | cons x xs =>
      rw [List.eraseDups_cons, List.nodup_cons]
      refine ⟨by simp, ih _ ?_ _ rfl⟩
      rw [← h, List.length_cons]
      exact Nat.lt_succ_of_le (List.length_filter_le _ _)

/-- What a cumulative ack reports. -/
structure CumulativeAck where
  agentId : AgentId
  agentName : String
  upToSeq : ℕ
  acked : ℕ
  ackedDeliveryIds : List DeliveryId

/-- The chunks of a cumulative ack.  The cursor moves with the last one only. -/
def ackChunks (agentId : AgentId) (upToSeq : ℕ) :
    List (List DeliveryWithChannel) → Prog lang (List DeliveryId)
  | [] => return []
  | chunk :: rest => do
    let updated : List Row ←
      await (.ackRows agentId chunk (if rest.isEmpty then some upToSeq else none))
    let ids ← ackChunks agentId upToSeq rest
    return updated.map Row.id ++ ids

/-- `ackDeliveriesUpToSeq`. -/
def ackDeliveriesUpToSeq (nodeId : NodeId) (providerName agentName : String) (upToSeq : ℕ) :
    Prog lang (Option CumulativeAck) := do
  let agent : Option Agent ← await (.ackAgent nodeId providerName agentName)
  match agent with
  | none => return none
  | some agent =>
    if upToSeq ≤ agent.deliveryAckSeq then
      return some ⟨agent.id, agent.name, upToSeq, 0, []⟩
    else
      let pending : List DeliveryWithChannel ← await (.ackableUpTo agent.id upToSeq)
      if pending.isEmpty then
        let _ : List Row ← await (.ackRows agent.id [] (some upToSeq))
        return some ⟨agent.id, agent.name, upToSeq, 0, []⟩
      else
        let ids ← ackChunks agent.id upToSeq (pages pending)
        return some ⟨agent.id, agent.name, upToSeq, ids.length, ids⟩

/-! ## Marking and reading -/

/-- The pages of `markDeliveriesDelivered`. -/
def markPages (now : Seconds) : List (List DeliveryId) → Prog lang (List DeliveryId)
  | [] => return []
  | page :: rest => do
    let updated : List DeliveryId ← await (.markDeliveredPage page now)
    let ids ← markPages now rest
    return updated ++ ids

/-- `markDeliveriesDelivered`. -/
def markDeliveriesDelivered (deliveryIds : List DeliveryId) : Prog lang (List DeliveryId) := do
  let now : Millis ← await .dateNow
  markPages (toSeconds now) (pages deliveryIds.eraseDups)

/-- `markRead`; an error is what its batch failed with. -/
def markRead (messageId : MessageId) (agentId : AgentId) :
    Prog lang (Except WriteError (Option ReadReceipt)) := do
  let msg : Option Message ← await (.getMessage messageId)
  match msg with
  | none => return .ok none
  | some msg =>
    let member : Bool ← await (.channelMembership msg.channelId agentId)
    let authorized : Bool ←
      if member then pure true else await (.dmMembership msg.channelId agentId)
    if authorized then
      let written : Except WriteError Unit ← await (.markReadWrites msg agentId)
      match written with
      | .error e => return .error e
      | .ok () =>
        let receipt : Option ReadReceipt ← await (.getReceipt messageId agentId)
        return .ok receipt
    else return .ok none

/-! ## Dead-lettering -/

/-- `DeliveryFailureNotice`. -/
structure DeliveryFailureNotice where
  deliveryId : DeliveryId
  messageId : MessageId
  senderAgentId : AgentId
  targetAgentId : AgentId
  targetAgentName : String
  seq : ℕ
  reason : String
  error : String
  retryable : Bool

/-- `ExpiredDeliveryBatch`. -/
structure ExpiredDeliveryBatch where
  expiredCount : ℕ
  notices : List DeliveryFailureNotice

/-- The notices of a sweep: for the selected rows that were updated and have a sender. -/
def failureNotices (reason error : String) (due : List DueDelivery) (updated : List DeliveryId) :
    List DeliveryFailureNotice :=
  (due.filter fun row => row.senderAgentId != "" && updated.contains row.delivery.id).map fun row =>
    { deliveryId := row.delivery.id
      messageId := row.delivery.messageId
      senderAgentId := row.senderAgentId
      targetAgentId := row.delivery.agentId
      targetAgentName := row.targetAgentName
      seq := row.delivery.seq
      reason := reason
      error := error
      retryable := false }

/-- `expireDueDeliveryBatch`. -/
def expireDueDeliveryBatch (oneWorkspace : Bool) (now : Millis) :
    Prog lang ExpiredDeliveryBatch := do
  let due : List DueDelivery ← await (.dueDeliveries oneWorkspace (toSeconds now))
  if due.isEmpty then return ⟨0, []⟩
  else
    let updated : List DeliveryId ←
      await (.expireUpdate (due.map fun row => row.delivery.id) now)
    return ⟨updated.length, failureNotices "ttl_expired" "delivery TTL expired" due updated⟩

/-- `UNREACHABLE_NODE_GRACE_MS`. -/
def unreachableNodeGraceMs : Millis := 30 * 60 * 1000

/-- The heartbeat a node must be older than to be unreachable. -/
def unreachableBefore (offlineGraceMs now : Millis) : Seconds :=
  toSeconds (now - if 0 < offlineGraceMs then offlineGraceMs else unreachableNodeGraceMs)

/-- `deadLetterUnreachableDeliveryBatch`. -/
def deadLetterUnreachableDeliveryBatch (oneWorkspace : Bool) (offlineGraceMs : Millis)
    (now : Millis) : Prog lang ExpiredDeliveryBatch := do
  let authority : Bool ← await .livenessAuthority
  if authority then return ⟨0, []⟩
  else
    let staleBefore := unreachableBefore offlineGraceMs now
    let due : List DueDelivery ← await (.unreachableDeliveries oneWorkspace staleBefore)
    if due.isEmpty then return ⟨0, []⟩
    else
      let updated : List DeliveryId ←
        await (.unreachableUpdate (due.map fun row => row.delivery.id) staleBefore now)
      return ⟨updated.length,
        failureNotices "node_unreachable" "target node unreachable" due updated⟩

end Delivery
