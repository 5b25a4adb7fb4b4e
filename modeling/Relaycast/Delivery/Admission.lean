import Relaycast.Delivery.Tables

/-!
# Delivery writes

A message write carries one `INSERT INTO deliveries … SELECT …` for its recipients.  The three
builders (channel, group DM, direct) differ in where the recipients come from and in which filters
they pass; they share the row that is inserted, the workspace growth guard and the trigger that
advances an agent's sequence high-water.

The growth guard works through constraints.  `deliveryAdmissionSelect` materializes the candidate
rows, and when they do not fit into the workspace it replaces their `status` by `NULL`; the column
is `NOT NULL`, so the first candidate aborts the statement and with it the enclosing message
write.  `ON CONFLICT DO NOTHING` covers uniqueness conflicts only.  Without a candidate there is
nothing to abort on.
-/

namespace Delivery

open Relational

/-! ## Workspace growth policy -/

/-- `DeliveryAudience`: broadcasts may not consume the targeted reserve. -/
inductive DeliveryAudience
  | broadcast
  | targeted
  deriving DecidableEq

/-- `WorkspaceDeliveryPolicy`. -/
structure WorkspaceDeliveryPolicy where
  cap : ℤ
  reserve : Option ℤ
  deriving DecidableEq

/-- `workspaceGrowthLimit`: the depth a given audience may grow the workspace to. -/
def workspaceGrowthLimit (policy : WorkspaceDeliveryPolicy) (audience : DeliveryAudience) : ℤ :=
  let reserve := if audience = .broadcast then max 0 (policy.reserve.getD 0) else 0
  policy.cap - reserve

lemma workspaceGrowthLimit_le_cap (policy : WorkspaceDeliveryPolicy)
    (audience : DeliveryAudience) : workspaceGrowthLimit policy audience ≤ policy.cap := by
  unfold workspaceGrowthLimit
  dsimp only
  split_ifs <;> omega

namespace Store

variable (s : Store)

/-- `workspaceActiveDepthSql`: the queued and delivered rows that are unexpired. -/
def workspaceActiveDepth : ℕ := s.deliveries.count fun r => r.countsAt s.unixepoch

/-- The active, unexpired deliveries of one recipient. -/
def mailboxDepth (agentId : AgentId) : ℕ :=
  s.deliveries.count fun r => r.agentId == agentId && r.countsAt s.unixepoch

/-- `belowDepthCapSql`: rows without an expiry and rows that expire later are counted by two
branches, up to the cap. -/
def belowDepthCap (agentId : AgentId) (depthCap : ℕ) : Bool :=
  let unbounded := s.deliveries.count fun r =>
    r.agentId == agentId && r.status.isActive && r.expiresAt.isNone
  let unexpired := s.deliveries.count fun r =>
    r.agentId == agentId && r.status.isActive && r.expiresAt.any fun e => decide (s.unixepoch < e)
  decide (min (unbounded + unexpired) depthCap < depthCap)

end Store

/-! ## Recipients -/

/-- `AuthorityRecipientLease`: evidence that a recipient is reachable, valid for a while. -/
structure AuthorityRecipientLease where
  agentId : AgentId
  nodeId : NodeId
  providerName : String
  expiresAt : Millis
  deriving DecidableEq

/-- `NODE_LIVENESS_TTL_MS`. -/
def nodeLivenessTtlMs : Millis := 45000

namespace Store

variable (s : Store)

/-- The binding an agent is routed through, when it is at that binding's node. -/
def activeBinding (a : Agent) : Option AgentNodeBinding :=
  s.agentNodeBindings.find? fun b =>
    b.agentId == a.id && b.status == "active" &&
      a.locationType == "via_node" && a.locationNodeId == some b.nodeId

/-- `COALESCE(binding.node_id, agents.location_node_id)`. -/
def routeNodeId (a : Agent) : Option NodeId :=
  ((s.activeBinding a).map AgentNodeBinding.nodeId).or a.locationNodeId

/-- The node a delivery to `a` is routed to. -/
def routeNode (a : Agent) : Option Node := s.nodes.find? fun n => some n.id == s.routeNodeId a

/-- A timestamp within the node liveness window. -/
def freshHeartbeat (at' : Option Seconds) : Bool :=
  at'.any fun t =>
    decide (s.unixepoch ≤ t + (nodeLivenessTtlMs + 999) / 1000) && decide (t ≤ s.unixepoch)

/-- `authorityRecipientSql`. -/
def authorityRecipient (leases : List AuthorityRecipientLease) (a : Agent) : Bool :=
  leases.any fun lease =>
    lease.agentId == a.id && a.locationNodeId == some lease.nodeId &&
      lease.providerName == a.providerName &&
      decide (s.unixepoch * 1000 + 999 < lease.expiresAt)

/-- `longOfflineSql`.  Under a liveness authority the projected node rows prove nothing. -/
def longOffline (offlineExcludeMs : Millis)
    (leases : List AuthorityRecipientLease) (a : Agent) : Bool :=
  if offlineExcludeMs = 0 then false
  else
    let node := s.routeNode a
    let liveNode := node.any fun n =>
      n.status != "offline" && s.freshHeartbeat n.lastHeartbeatAt &&
        (n.role == "direct" || s.nodeProviders.any fun p =>
          p.nodeId == n.id && p.name == a.providerName && p.status == "online" &&
            s.freshHeartbeat p.lastHeartbeatAt)
    (a.status == "offline" || a.status == "active" || a.status == "online") &&
      decide (a.lastSeen + offlineExcludeMs / 1000 < s.unixepoch) &&
      !((node.any fun n => n.kind == "http_push") || s.authorityRecipient leases a ||
        (!s.nodeLivenessAuthority && liveNode))

/-- `newDeliveryIdentitySql`: no delivery of this message to this agent yet. -/
def newDeliveryIdentity (messageId : MessageId) (agentId : AgentId) : Bool :=
  !s.deliveries.rows.any fun r => r.messageId == messageId && r.agentId == agentId

end Store

/-! ## Candidate rows -/

/-- A row the `SELECT` of a delivery write produces, before the growth guard.  `workspaceNull`
says that the per-recipient guard (`guardedWorkspaceIdSql`) put `NULL` for its workspace. -/
structure Candidate where
  row : Row
  workspaceNull : Bool

/-- `ttlSeconds`. -/
def ttlSeconds (ttlMs : Millis) : Seconds := max 1 ((ttlMs + 999) / 1000)

/-- `nextDeliverySeqSql`. -/
def nextDeliverySeq (a : Agent) : ℕ := max a.deliverySeq a.deliveryAckSeq + 1

/-- What every delivery write says about the message it delivers. -/
structure Envelope where
  messageId : MessageId
  mode : String
  ttlMs : Millis

/-- The row that is inserted for one recipient. -/
def newRow (s : Store) (e : Envelope) (id : DeliveryId) (reason : String) (a : Agent) : Row where
  id := id
  messageId := e.messageId
  agentId := a.id
  mode := e.mode
  reason := some reason
  priority := "normal"
  deadline := none
  status := .queued
  seq := nextDeliverySeq a
  locationType := if (s.activeBinding a).isSome then "via_node" else a.locationType
  locationNodeId := s.routeNodeId a
  routeNodeId := s.routeNodeId a
  routeNodeKind := (s.routeNode a).map Node.kind
  routeNodeRole := (s.routeNode a).map Node.role
  deliveryAdapter := (s.routeNode a).map Node.deliveryAdapter
  dispatchAttempts := 0
  nextAttemptAt := none
  lastDispatchError := none
  expiresAt := some (s.unixepoch + ttlSeconds e.ttlMs)
  deliveredAt := none
  ackedAt := none
  deadLetteredAt := none
  retryable := none
  availableAt := none
  error := none
  createdAt := s.unixepoch
  updatedAt := none

/-- `deliveryId`. -/
def deliveryId (messageId : MessageId) (agentId : AgentId) : DeliveryId :=
  "del_" ++ messageId ++ "_" ++ agentId

/-- The input of `buildChannelDeliveryWrite`. -/
structure ChannelDeliveryInput extends Envelope where
  channelId : ChannelId
  senderAgentId : AgentId
  depthCap : ℕ
  offlineExcludeMs : Millis
  authorityLeases : List AuthorityRecipientLease
  reason : Option String
  mentionHandles : List String
  rejectOnOverflow : Bool
  workspacePolicy : Option WorkspaceDeliveryPolicy
  audience : Option DeliveryAudience

/-- The input of `buildGroupDmDeliveryWrite`. -/
structure GroupDmDeliveryInput extends Envelope where
  conversationId : ConversationId
  senderAgentId : AgentId
  depthCap : ℕ
  offlineExcludeMs : Millis
  authorityLeases : List AuthorityRecipientLease
  excludeLongOffline : Option Bool
  workspacePolicy : Option WorkspaceDeliveryPolicy

/-- The input of `buildDirectDeliveryWrite`. -/
structure DirectDeliveryInput extends Envelope where
  agentId : AgentId
  reason : String
  depthCap : ℕ
  deliveryId : Option DeliveryId
  workspacePolicy : Option WorkspaceDeliveryPolicy

/-- `channelReasonSql`. -/
def channelReason (mentionHandles : List String) (fallback : String) (a : Agent) : String :=
  if mentionHandles.contains a.name then "mention" else fallback

/-- The candidates of `buildChannelDeliveryWrite`: unmuted or mentioned members other than the
sender, without a delivery of this message, not long offline, and below their depth cap unless an
overflow rejects the whole write. -/
def channelCandidates (s : Store) (input : ChannelDeliveryInput) :
    List Candidate :=
  (s.channelMembers.filter fun m => m.channelId == input.channelId).filterMap fun m => do
    let a ← s.agents.rows.find? fun a => a.id == m.agentId
    let below := s.belowDepthCap a.id input.depthCap
    if (!m.isMuted || input.mentionHandles.contains a.name) && a.id != input.senderAgentId &&
        s.newDeliveryIdentity input.messageId a.id &&
        !s.longOffline input.offlineExcludeMs input.authorityLeases a &&
        (input.rejectOnOverflow || below) then
      some
        { row := newRow s input.toEnvelope (deliveryId input.messageId a.id)
            (channelReason input.mentionHandles (input.reason.getD "message") a) a
          workspaceNull := input.rejectOnOverflow && !below }
    else none

/-- The candidates of `buildGroupDmDeliveryWrite`: participants who have not left, other than the
sender, without a delivery of this message, below their depth cap and, unless the caller keeps
them, not long offline. -/
def groupDmCandidates (s : Store) (input : GroupDmDeliveryInput) :
    List Candidate :=
  (s.dmParticipants.filter fun p => p.conversationId == input.conversationId).filterMap fun p => do
    let a ← s.agents.rows.find? fun a => a.id == p.agentId
    if p.leftAt.isNone && a.id != input.senderAgentId &&
        s.newDeliveryIdentity input.messageId a.id &&
        (input.excludeLongOffline == some false ||
          !s.longOffline input.offlineExcludeMs input.authorityLeases a) &&
        s.belowDepthCap a.id input.depthCap then
      some
        { row := newRow s input.toEnvelope (deliveryId input.messageId a.id) "dm" a
          workspaceNull := false }
    else none

/-- The candidates of `buildDirectDeliveryWrite`: the one addressed agent, if it has no delivery of
this message yet and is below its depth cap. -/
def directCandidates (s : Store) (input : DirectDeliveryInput) : List Candidate :=
  (s.agents.select fun a => a.id == input.agentId && s.newDeliveryIdentity input.messageId a.id &&
      s.belowDepthCap a.id input.depthCap).map fun a =>
    { row := newRow s input.toEnvelope
        (input.deliveryId.getD (deliveryId input.messageId input.agentId)) input.reason a
      workspaceNull := false }

/-! ## The insert statement -/

/-- Why a batch was rolled back. -/
inductive WriteError
  /-- `NOT NULL constraint failed: deliveries.status`. -/
  | nullStatus
  /-- `NOT NULL constraint failed: deliveries.workspace_id`. -/
  | nullWorkspaceId
  /-- The delivered message is not stored. -/
  | foreignKey
  /-- The message is stored already. -/
  | duplicateMessage
  deriving DecidableEq

/-- A delivery write, with what its builder was given. -/
inductive DeliveryWrite
  | channel (input : ChannelDeliveryInput)
  | groupDm (input : GroupDmDeliveryInput)
  | direct (input : DirectDeliveryInput)

namespace DeliveryWrite

/-- The envelope of a write. -/
def envelope : DeliveryWrite → Envelope
  | channel input => input.toEnvelope
  | groupDm input => input.toEnvelope
  | direct input => input.toEnvelope

/-- The growth policy supplied to a write. -/
def workspacePolicy : DeliveryWrite → Option WorkspaceDeliveryPolicy
  | channel input => input.workspacePolicy
  | groupDm input => input.workspacePolicy
  | direct input => input.workspacePolicy

/-- The audience a write is charged as; group DMs and direct messages are targeted. -/
def audience : DeliveryWrite → DeliveryAudience
  | channel input => input.audience.getD .broadcast
  | groupDm _ => .targeted
  | direct _ => .targeted

/-- The mailbox depth cap supplied to a write. -/
def depthCap : DeliveryWrite → ℕ
  | channel input => input.depthCap
  | groupDm input => input.depthCap
  | direct input => input.depthCap

/-- The rows the write's `SELECT` produces. -/
def candidates (s : Store) : DeliveryWrite → List Candidate
  | channel input => channelCandidates s input
  | groupDm input => groupDmCandidates s input
  | direct input => directCandidates s input

end DeliveryWrite

/-- `deliveryAdmissionSelect`: may all the candidates be added? -/
def capacityAllowed (s : Store) (policy : Option WorkspaceDeliveryPolicy)
    (audience : DeliveryAudience) (count : ℕ) : Bool :=
  match policy with
  | none => true
  | some p => decide ((s.workspaceActiveDepth : ℤ) + count ≤ workspaceGrowthLimit p audience)

/-- One candidate of a delivery write is inserted, or aborts the statement. -/
def insertCandidate (allowed : Bool) (s : Store) (c : Candidate) : Except WriteError Store :=
  if allowed = false then .error .nullStatus
  else if c.workspaceNull then .error .nullWorkspaceId
  else if h : ∃ m ∈ s.messages.rows, m.id = c.row.messageId then .ok (s.addDelivery c.row h)
  else .error .foreignKey

/-- The delivery statement of a message write: the candidates and the admission are materialized
first, then the candidates are inserted one after the other. -/
def insertDeliveries (s : Store) (w : DeliveryWrite) : Except WriteError Store :=
  let cs := w.candidates s
  let allowed := capacityAllowed s w.workspacePolicy w.audience cs.length
  cs.foldlM (insertCandidate allowed) s

/-- The message insert a delivery write is batched with. -/
def insertMessage (s : Store) (m : Message) : Except WriteError Store :=
  if h : s.messages.conflicts m = false then .ok (s.addMessage m h) else .error .duplicateMessage

/-- A message write: the message, unless it is stored already, and the deliveries, in one batch.
An error rolls everything back. -/
def writeMessage (s : Store) (m : Option Message) (w : DeliveryWrite) : Except WriteError Store :=
  match m with
  | none => insertDeliveries s w
  | some m => do insertDeliveries (← insertMessage s m) w

end Delivery
