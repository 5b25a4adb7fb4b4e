import Relaycast.Delivery.Admission
import Relaycast.Interleaving.Safety

/-!
# Delivery statements

Every statement the delivery functions send to the database (or to a node's socket), as a function
of the store, and the machine they make up.  A statement that embeds `new Date()` or `Date.now()`
is answered with that reading, which need not agree with the database's clock; a send and a
readiness check are answered with their outcome.
-/

namespace Delivery

open Relational Interleaving

/-- `DELIVERY_EXPIRY_BATCH_SIZE`. -/
def deliveryExpiryBatchSize : ℕ := 50

/-- `DeliveryWithChannel`: a delivery joined to its message. -/
structure DeliveryWithChannel where
  delivery : Row
  channelId : ChannelId

/-- A delivery a sweep has selected, with what its failure notice says. -/
structure DueDelivery where
  delivery : Row
  senderAgentId : AgentId
  targetAgentName : String

/-- The agent a replay is draining. -/
structure Recipient where
  id : AgentId
  name : String
  providerName : String
  ackSeq : ℕ

/-- A delivery hydrated for replay: what the frame is built from. -/
structure PendingDelivery where
  delivery : Row
  recipientAgentName : String
  threadId : Option MessageId
  dmType : Option String

/-- The frame a replay sends for one delivery; the message content of its payload is left out. -/
structure DeliverFrame where
  deliveryId : DeliveryId
  agentId : AgentId
  agent : String
  msgId : MessageId
  seq : ℕ
  mode : String
  eventType : String
  deriving DecidableEq

namespace Store

variable (s : Store)

/-! ## Reads -/

/-- The message of a delivery. -/
def messageOf (r : Row) : Option Message := s.messages.rows.find? fun m => m.id == r.messageId

/-- `getOwnedDelivery`: the delivery, if the agent owns it. -/
def getOwnedDelivery (agentId : AgentId) (deliveryId : DeliveryId) : Option DeliveryWithChannel := do
  let r ← s.deliveries.rows.find? fun r => r.id == deliveryId && r.agentId == agentId
  let m ← s.messageOf r
  some ⟨r, m.channelId⟩

/-- The agent a node's cumulative ack speaks for. -/
def ackAgent (nodeId : NodeId) (providerName agentName : String) : Option Agent :=
  s.agents.rows.find? fun a =>
    a.name == agentName && a.locationType == "via_node" && a.locationNodeId == some nodeId &&
      a.providerName == providerName

/-- The deliveries a cumulative ack settles: up to the sequence, not acked or dead-lettered, in
sequence order. -/
def ackableUpTo (agentId : AgentId) (upToSeq : ℕ) : List DeliveryWithChannel :=
  ((s.deliveries.select fun r =>
      r.agentId == agentId && decide (r.seq ≤ upToSeq) && !r.status.isTerminal).filterMap fun r =>
    (s.messageOf r).map fun m => ⟨r, m.channelId⟩).insertionSort
    fun x y => x.delivery.seq ≤ y.delivery.seq

/-- A delivery joined to its message and its recipient, for a sweep. -/
def dueDelivery (r : Row) : Option DueDelivery := do
  let m ← s.messageOf r
  let a ← s.agents.rows.find? fun a => a.id == r.agentId
  some ⟨r, m.agentId, a.name⟩

/-- Where `NULL` sorts in an ascending order: first. -/
def nullsFirst (at' : Option Seconds) : ℕ :=
  match at' with
  | none => 0
  | some t => t + 1

/-- The active deliveries that expired by `nowSeconds`, in the order `(expires_at, id)`. -/
def dueDeliveries (nowSeconds : Seconds) : List DueDelivery :=
  ((s.deliveries.select fun r =>
      r.status.isActive && r.expiresAt.any fun e => decide (e ≤ nowSeconds)).filterMap
    s.dueDelivery).insertionSort fun x y =>
      nullsFirst x.delivery.expiresAt < nullsFirst y.delivery.expiresAt ∨
        (x.delivery.expiresAt = y.delivery.expiresAt ∧ x.delivery.id ≤ y.delivery.id)

/-- `staleNodePredicate`: the node of a delivery is a `ws` node that is not online and whose last
heartbeat is older than `staleBefore`. -/
def staleNode (staleBefore : Seconds) (r : Row) : Option Node :=
  s.nodes.find? fun n =>
    some n.id == r.locationNodeId && n.kind == "ws" && n.status != "online" &&
      n.lastHeartbeatAt.any fun t => decide (t < staleBefore)

/-- The active deliveries at a stale node, in the order `(last_heartbeat_at, expires_at, id)`. -/
def unreachableDeliveries (staleBefore : Seconds) : List DueDelivery :=
  (((s.deliveries.select fun r => r.status.isActive).filterMap fun r => do
      let n ← s.staleNode staleBefore r
      let d ← s.dueDelivery r
      some (n, d)).insertionSort fun x y =>
        nullsFirst x.1.lastHeartbeatAt < nullsFirst y.1.lastHeartbeatAt ∨
          (x.1.lastHeartbeatAt = y.1.lastHeartbeatAt ∧
            (nullsFirst x.2.delivery.expiresAt < nullsFirst y.2.delivery.expiresAt ∨
              (x.2.delivery.expiresAt = y.2.delivery.expiresAt ∧
                x.2.delivery.id ≤ y.2.delivery.id)))).map Prod.snd

/-! ## Acknowledgements -/

/-- `deliveryStillAckable`. -/
def deliveryStillAckable (deliveryId : DeliveryId) : Bool :=
  s.deliveries.rows.any fun r => r.id == deliveryId && !r.status.isTerminal

/-- `readCursorWrites`: they observe the status before the ack. -/
def readCursorWrites (agentId : AgentId) (row : DeliveryWithChannel) : Store :=
  if s.deliveryStillAckable row.delivery.id then
    (s.addReadReceipt row.delivery.messageId agentId).advanceReadCursors agentId row.channelId
      row.delivery.messageId
  else s

/-- What an ack does to a row. -/
def ackedRow (now : Millis) (r : Row) : Row :=
  { r with
    status := .acked
    nextAttemptAt := none
    lastDispatchError := none
    ackedAt := some (toSeconds now)
    updatedAt := some (toSeconds now) }

lemma key_ackedRow (now : Millis) : KeepsKey (ackedRow now) := fun _ => rfl

/-- The rows the status update of `ackRows` hits. -/
def ackableIn (ids : List DeliveryId) (r : Row) : Bool := ids.contains r.id && !r.status.isTerminal

/-- What an ack does to the agent's row. -/
def ackedAgent (advanceCursorTo : Option ℕ) (now : Millis) (a : Agent) : Agent :=
  { a with
    deliveryAckSeq :=
      match advanceCursorTo with
      | none => a.deliveryAckSeq
      | some upTo => if a.deliveryAckSeq < upTo then upTo else a.deliveryAckSeq
    lastSeen := toSeconds now }

lemma key_ackedAgent (advanceCursorTo : Option ℕ) (now : Millis) :
    KeepsId (ackedAgent advanceCursorTo now) := fun _ => rfl

/-- The batch of `ackRows`: the cursor, the read cursors of every row, the status update. -/
def ackRows (agentId : AgentId) (rows : List DeliveryWithChannel) (advanceCursorTo : Option ℕ)
    (now : Millis) : List Row × Store :=
  let ids := rows.map fun row => row.delivery.id
  let s₁ := s.updateAgents (fun a => a.id == agentId) (ackedAgent advanceCursorTo now)
    (key_ackedAgent advanceCursorTo now)
  let s₂ := rows.foldl (fun s row => s.readCursorWrites agentId row) s₁
  (s₂.deliveries.returning (ackableIn ids) (ackedRow now),
    s₂.updateDeliveries (ackableIn ids) (ackedRow now) (key_ackedRow now))

/-! ## Transitions -/

/-- The rows the update of `failDelivery` hits. -/
def failable (deliveryId : DeliveryId) (r : Row) : Bool :=
  r.id == deliveryId && !r.status.isSettled

/-- What a failure does to a row. -/
def failedRow (error : Option String) (retryable : Option Bool) (now : Millis) (r : Row) : Row :=
  { r with
    status := .failed
    error := error
    retryable := retryable
    updatedAt := some (toSeconds now) }

lemma key_failedRow (error : Option String) (retryable : Option Bool) (now : Millis) :
    KeepsKey (failedRow error retryable now) := fun _ => rfl

/-- The update of `failDelivery`. -/
def failUpdate (deliveryId : DeliveryId) (error : Option String) (retryable : Option Bool)
    (now : Millis) : Option Row × Store :=
  ((s.deliveries.returning (failable deliveryId) (failedRow error retryable now)).head?,
    s.updateDeliveries (failable deliveryId) (failedRow error retryable now)
      (key_failedRow error retryable now))

/-- The defer is a no-op: queued, and already deferred to this instant for this reason.  A
comparison with a `NULL` column is `NULL`, and so is its negation: where nothing else differs, such
a row is not updated either. -/
def deferIsNoop (availableAt : Millis) (reason : Option String) (r : Row) : Bool :=
  decide (r.status = .queued) && r.availableAt.all (fun t => t == toSeconds availableAt) &&
    match reason with
    | none => r.reason.isNone
    | some targetReason => r.reason.all fun x => x == targetReason

/-- `workspaceCapacityOk`: restoring a failed, unexpired row needs room in the workspace. -/
def workspaceCapacityOk (policy : Option WorkspaceDeliveryPolicy) (r : Row) : Bool :=
  match policy with
  | none => true
  | some p =>
    decide (r.status ≠ .failed) || !r.unexpired s.unixepoch ||
      decide ((s.workspaceActiveDepth : ℤ) < workspaceGrowthLimit p .targeted)

/-- The rows the update of `deferDelivery` hits. -/
def deferrable (deliveryId : DeliveryId) (availableAt : Millis) (reason : Option String)
    (policy : Option WorkspaceDeliveryPolicy) (r : Row) : Bool :=
  r.id == deliveryId && !r.status.isTerminal && !deferIsNoop availableAt reason r &&
    s.workspaceCapacityOk policy r

/-- What a defer does to a row. -/
def deferredRow (availableAt : Millis) (reason : Option String) (now : Millis) (r : Row) : Row :=
  { r with
    status := .queued
    availableAt := some (toSeconds availableAt)
    reason := reason
    updatedAt := some (toSeconds now) }

lemma key_deferredRow (availableAt : Millis) (reason : Option String) (now : Millis) :
    KeepsKey (deferredRow availableAt reason now) := fun _ => rfl

/-- The update of `deferDelivery`. -/
def deferUpdate (deliveryId : DeliveryId) (availableAt : Millis) (reason : Option String)
    (policy : Option WorkspaceDeliveryPolicy) (now : Millis) : Option Row × Store :=
  ((s.deliveries.returning (s.deferrable deliveryId availableAt reason policy)
      (deferredRow availableAt reason now)).head?,
    s.updateDeliveries (s.deferrable deliveryId availableAt reason policy)
      (deferredRow availableAt reason now) (key_deferredRow availableAt reason now))

/-- The rows one page of `markDeliveriesDelivered` hits. -/
def deliverable (ids : List DeliveryId) (r : Row) : Bool :=
  ids.contains r.id && decide (r.status = .queued)

/-- What marking does to a row. -/
def deliveredRow (now : Seconds) (r : Row) : Row :=
  { r with
    status := .delivered
    nextAttemptAt := none
    lastDispatchError := none
    deliveredAt := some now
    updatedAt := some now }

lemma key_deliveredRow (now : Seconds) : KeepsKey (deliveredRow now) := fun _ => rfl

/-- One page of `markDeliveriesDelivered`. -/
def markDeliveredPage (ids : List DeliveryId) (now : Seconds) : List DeliveryId × Store :=
  ((s.deliveries.select (deliverable ids)).map Row.id,
    s.updateDeliveries (deliverable ids) (deliveredRow now) (key_deliveredRow now))

/-- The rows `markRead` acknowledges. -/
def readable (messageId : MessageId) (agentId : AgentId) (r : Row) : Bool :=
  r.messageId == messageId && r.agentId == agentId && r.status.isActive

/-- What reading the message does to a row. -/
def readRow (now : Millis) (r : Row) : Row :=
  { r with
    status := .acked
    ackedAt := some (toSeconds now)
    updatedAt := some (toSeconds now) }

lemma key_readRow (now : Millis) : KeepsKey (readRow now) := fun _ => rfl

/-- The batch of `markRead`: receipt, delivery transition, read cursors.  The receipt refers to the
message, so the batch fails once that is deleted. -/
def markReadWrites (msg : Message) (agentId : AgentId) (now : Millis) :
    Except WriteError Unit × Store :=
  if s.messages.rows.any fun m => m.id == msg.id then
    (.ok (), ((s.addReadReceipt msg.id agentId).updateDeliveries (readable msg.id agentId)
      (readRow now) (key_readRow now)).advanceReadCursors agentId msg.channelId msg.id)
  else (.error .foreignKey, s)

/-- What dead-lettering does to a row. -/
def deadRow (error : String) (now : Millis) (r : Row) : Row :=
  { r with
    status := .deadLettered
    error := some error
    retryable := some false
    deadLetteredAt := some (toSeconds now)
    updatedAt := some (toSeconds now) }

lemma key_deadRow (error : String) (now : Millis) : KeepsKey (deadRow error now) := fun _ => rfl

/-- The rows the update of `expireDueDeliveryBatch` hits. -/
def expirable (ids : List DeliveryId) (r : Row) : Bool := ids.contains r.id && !r.status.isSettled

/-- The update of `expireDueDeliveryBatch`. -/
def expireUpdate (ids : List DeliveryId) (now : Millis) : List DeliveryId × Store :=
  ((s.deliveries.select (expirable ids)).map Row.id,
    s.updateDeliveries (expirable ids) (deadRow "delivery TTL expired" now) (key_deadRow _ now))

/-- The rows the update of `deadLetterUnreachableDeliveryBatch` hits. -/
def unreachable (ids : List DeliveryId) (staleBefore : Seconds) (r : Row) : Bool :=
  expirable ids r && (s.staleNode staleBefore r).isSome

/-- The update of `deadLetterUnreachableDeliveryBatch`. -/
def unreachableUpdate (ids : List DeliveryId) (staleBefore : Seconds) (now : Millis) :
    List DeliveryId × Store :=
  ((s.deliveries.select (s.unreachable ids staleBefore)).map Row.id,
    s.updateDeliveries (s.unreachable ids staleBefore) (deadRow "target node unreachable" now)
      (key_deadRow _ now))

/-! ## Retention -/

/-- Retention deletes settled deliveries it has selected. -/
def pruneDeliveries (ids : List DeliveryId) : Store :=
  s.deleteDeliveries fun r => ids.contains r.id && r.status.isSettled

/-- Retention deletes messages it has selected that no stored message replies to. -/
def pruneMessages (ids : List MessageId) : Store :=
  s.deleteMessages fun m =>
    ids.contains m.id && !s.messages.rows.any fun reply => reply.threadId == some m.id

/-- Retention recovers active deliveries long past their expiry. -/
def recoverExpired (ids : List DeliveryId) (cutoff : Seconds) : Store :=
  s.deleteDeliveries fun r =>
    ids.contains r.id && r.status.isActive && r.expiresAt.any fun e => decide (e < cutoff)

/-! ## Replay reads -/

/-- The agents hosted by a node, in name order. -/
def roster (nodeId : NodeId) (providerName : Option String) (ids : Option (List AgentId)) :
    List Recipient :=
  ((s.agents.select fun a =>
      a.locationType == "via_node" && a.locationNodeId == some nodeId &&
        (match providerName with
          | none => true
          | some p => a.providerName == p) &&
        (match ids with
          | none => true
          | some ids => ids.contains a.id)).map fun a =>
    ({ id := a.id, name := a.name, providerName := a.providerName,
       ackSeq := a.deliveryAckSeq } : Recipient)).insertionSort fun x y => x.name ≤ y.name

/-- The highest sequence in an agent's mailbox. -/
def highWater (agentId : AgentId) : Option ℕ :=
  ((s.deliveries.select fun r => r.agentId == agentId).map Row.seq).max?

/-- The next page of an agent's active deliveries. -/
def replayPage (agentId : AgentId) (cursor highWater : ℕ) : List (DeliveryId × ℕ) :=
  (((s.deliveries.select fun r =>
      r.agentId == agentId && r.status.isActive && decide (cursor < r.seq) &&
        decide (r.seq ≤ highWater)).map fun r => (r.id, r.seq)).insertionSort
    fun x y => x.2 ≤ y.2).take 50

/-- What both rechecks of a replay ask of a delivery and its agent: the agent is the one being
drained and still at this node and provider, and the delivery is active, past the ack cursor and
unexpired. -/
def replayable (nodeId : NodeId) (recipient : Recipient) (now : Seconds) (r : Row) : Option Agent :=
  s.agents.rows.find? fun a =>
    a.id == r.agentId && a.id == recipient.id && a.locationType == "via_node" &&
      a.locationNodeId == some nodeId && a.providerName == recipient.providerName &&
      decide (a.deliveryAckSeq < r.seq) && r.status.isActive && r.unexpired now

/-- The hydration of a page, in sequence order. -/
def hydratePage (nodeId : NodeId) (recipient : Recipient) (ids : List DeliveryId) (now : Seconds) :
    List PendingDelivery :=
  ((s.deliveries.select fun r => ids.contains r.id).filterMap fun r => do
    let a ← s.replayable nodeId recipient now r
    let m ← s.messageOf r
    some
      { delivery := r
        recipientAgentName := a.name
        threadId := m.threadId
        dmType := (s.dmConversations.rows.find? fun c => c.channelId == m.channelId).map
          DmConversation.dmType }).insertionSort
    fun x y => x.delivery.seq ≤ y.delivery.seq

/-- The exact-id recheck before a send. -/
def replayCurrent (nodeId : NodeId) (recipient : Recipient) (deliveryId : DeliveryId)
    (now : Seconds) : Bool :=
  s.deliveries.rows.any fun r =>
    r.id == deliveryId && (s.replayable nodeId recipient now r).isSome

end Store

/-! ## The machine -/

/-- The statements of the delivery functions. -/
inductive Stmt
  | getOwnedDelivery (agentId : AgentId) (deliveryId : DeliveryId)
  | ackRows (agentId : AgentId) (rows : List DeliveryWithChannel) (advanceCursorTo : Option ℕ)
  | ackAgent (nodeId : NodeId) (providerName agentName : String)
  | ackableUpTo (agentId : AgentId) (upToSeq : ℕ)
  | failUpdate (deliveryId : DeliveryId) (error : Option String) (retryable : Option Bool)
  | deferUpdate (deliveryId : DeliveryId) (availableAt : Millis) (reason : Option String)
      (policy : Option WorkspaceDeliveryPolicy)
  | dateNow
  | markDeliveredPage (ids : List DeliveryId) (now : Seconds)
  | getMessage (messageId : MessageId)
  | channelMembership (channelId : ChannelId) (agentId : AgentId)
  | dmMembership (channelId : ChannelId) (agentId : AgentId)
  | markReadWrites (msg : Message) (agentId : AgentId)
  | getReceipt (messageId : MessageId) (agentId : AgentId)
  | dueDeliveries (oneWorkspace : Bool) (nowSeconds : Seconds)
  | expireUpdate (ids : List DeliveryId) (now : Millis)
  | livenessAuthority
  | unreachableDeliveries (oneWorkspace : Bool) (staleBefore : Seconds)
  | unreachableUpdate (ids : List DeliveryId) (staleBefore : Seconds) (now : Millis)
  | writeMessage (message : Option Message) (write : DeliveryWrite)
  | pruneDeliveries (ids : List DeliveryId)
  | pruneMessages (ids : List MessageId)
  | recoverExpired (ids : List DeliveryId) (cutoff : Seconds)
  | roster (nodeId : NodeId) (providerName : Option String) (ids : Option (List AgentId))
  | providerReady (nodeId : NodeId) (providerName : String) (agentId : AgentId)
  | highWater (agentId : AgentId)
  | replayPage (agentId : AgentId) (cursor highWater : ℕ)
  | hydratePage (nodeId : NodeId) (recipient : Recipient) (ids : List DeliveryId)
  | fetchAttachments (messageIds : List MessageId)
  | replayCurrent (nodeId : NodeId) (recipient : Recipient) (deliveryId : DeliveryId)
  | sendToProvider (nodeId : NodeId) (providerName : String) (frame : DeliverFrame)
  | notifySenders (ids : List DeliveryId)

/-- What the outside world contributes: a clock reading, an outcome, or how much of a sweep's page
over all workspaces is of this workspace. -/
def Stmt.Answer : Stmt → Type
  | .ackRows .. | .failUpdate .. | .deferUpdate .. | .dateNow | .markReadWrites ..
  | .hydratePage .. | .replayCurrent .. => Millis
  | .dueDeliveries .. | .unreachableDeliveries .. => ℕ
  | .providerReady .. | .sendToProvider .. => Bool
  | _ => Unit

/-- What each statement replies. -/
def Stmt.Reply : Stmt → Type
  | .getOwnedDelivery .. => Option DeliveryWithChannel
  | .ackRows .. => List Row
  | .ackAgent .. => Option Agent
  | .ackableUpTo .. => List DeliveryWithChannel
  | .failUpdate .. | .deferUpdate .. => Option Row
  | .dateNow => Millis
  | .markDeliveredPage .. | .expireUpdate .. | .unreachableUpdate .. => List DeliveryId
  | .getMessage .. => Option Message
  | .channelMembership .. | .dmMembership .. | .livenessAuthority | .providerReady ..
  | .replayCurrent .. | .sendToProvider .. => Bool
  | .getReceipt .. => Option ReadReceipt
  | .dueDeliveries .. | .unreachableDeliveries .. => List DueDelivery
  | .writeMessage .. | .markReadWrites .. => Except WriteError Unit
  | .roster .. => List Recipient
  | .highWater .. => Option ℕ
  | .replayPage .. => List (DeliveryId × ℕ)
  | .hydratePage .. => List PendingDelivery
  | .pruneDeliveries .. | .pruneMessages .. | .recoverExpired .. | .fetchAttachments ..
  | .notifySenders .. => Unit

/-- The language of the delivery functions. -/
abbrev lang : Language where
  Stmt := Stmt
  Answer := Stmt.Answer
  Reply := Stmt.Reply

/-- Issue one statement of the delivery functions and return its reply. -/
abbrev await (q : Stmt) : Prog lang q.Reply := Prog.ask (L := lang) q

/-- The page of a sweep: all of it when the sweep is of one workspace, otherwise the part of it
that the other workspaces leave. -/
def sweepPage (oneWorkspace : Bool) (share : ℕ) (rows : List DueDelivery) : List DueDelivery :=
  rows.take (if oneWorkspace then deliveryExpiryBatchSize else min share deliveryExpiryBatchSize)

/-- What a message write leaves, and what it replies. -/
def runWriteMessage (s : Store) (m : Option Message) (w : DeliveryWrite) :
    Except WriteError Unit × Store :=
  match writeMessage s m w with
  | .ok s' => (.ok (), s')
  | .error e => (.error e, s)

/-- Execute one statement. -/
def run : (q : Stmt) → q.Answer → Store → q.Reply × Store
  | .getOwnedDelivery agentId deliveryId, _, s => (s.getOwnedDelivery agentId deliveryId, s)
  | .ackRows agentId rows advanceCursorTo, (now : Millis), s =>
    s.ackRows agentId rows advanceCursorTo now
  | .ackAgent nodeId providerName agentName, _, s => (s.ackAgent nodeId providerName agentName, s)
  | .ackableUpTo agentId upToSeq, _, s => (s.ackableUpTo agentId upToSeq, s)
  | .failUpdate deliveryId error retryable, (now : Millis), s =>
    s.failUpdate deliveryId error retryable now
  | .deferUpdate deliveryId availableAt reason policy, (now : Millis), s =>
    s.deferUpdate deliveryId availableAt reason policy now
  | .dateNow, (now : Millis), s => (now, s)
  | .markDeliveredPage ids now, _, s => s.markDeliveredPage ids now
  | .getMessage messageId, _, s => (s.messages.rows.find? fun m => m.id == messageId, s)
  | .channelMembership channelId agentId, _, s =>
    (s.channelMembers.any fun m => m.channelId == channelId && m.agentId == agentId, s)
  | .dmMembership channelId agentId, _, s =>
    (s.dmParticipants.any fun p => p.agentId == agentId && p.leftAt.isNone &&
      s.dmConversations.rows.any fun c => c.id == p.conversationId && c.channelId == channelId, s)
  | .markReadWrites msg agentId, (now : Millis), s => s.markReadWrites msg agentId now
  | .getReceipt messageId agentId, _, s =>
    (s.readReceipts.rows.find? fun r => r.messageId == messageId && r.agentId == agentId, s)
  | .dueDeliveries oneWorkspace nowSeconds, (share : ℕ), s =>
    (sweepPage oneWorkspace share (s.dueDeliveries nowSeconds), s)
  | .expireUpdate ids now, _, s => s.expireUpdate ids now
  | .livenessAuthority, _, s => (s.nodeLivenessAuthority, s)
  | .unreachableDeliveries oneWorkspace staleBefore, (share : ℕ), s =>
    (sweepPage oneWorkspace share (s.unreachableDeliveries staleBefore), s)
  | .unreachableUpdate ids staleBefore now, _, s => s.unreachableUpdate ids staleBefore now
  | .writeMessage message write, _, s => runWriteMessage s message write
  | .pruneDeliveries ids, _, s => ((), s.pruneDeliveries ids)
  | .pruneMessages ids, _, s => ((), s.pruneMessages ids)
  | .recoverExpired ids cutoff, _, s => ((), s.recoverExpired ids cutoff)
  | .roster nodeId providerName ids, _, s => (s.roster nodeId providerName ids, s)
  | .providerReady _ _ _, (ready : Bool), s => (ready, s)
  | .highWater agentId, _, s => (s.highWater agentId, s)
  | .replayPage agentId cursor highWater, _, s => (s.replayPage agentId cursor highWater, s)
  | .hydratePage nodeId recipient ids, (now : Millis), s =>
    (s.hydratePage nodeId recipient ids (toSeconds now), s)
  | .fetchAttachments _, _, s => ((), s)
  | .replayCurrent nodeId recipient deliveryId, (now : Millis), s =>
    (s.replayCurrent nodeId recipient deliveryId (toSeconds now), s)
  | .sendToProvider _ _ _, (sent : Bool), s => (sent, s)
  | .notifySenders _, _, s => ((), s)

/-- What happens to the tables outside the delivery functions: the clock advances, and agents,
routes, memberships and conversations change. -/
inductive Drift
  | advance (ms : Millis)
  | profile (agentId : AgentId) (name status locationType : String)
      (locationNodeId : Option NodeId) (providerName : String) (lastSeen : Seconds)
  | routes (nodes : List Node) (nodeProviders : List NodeProvider)
      (agentNodeBindings : List AgentNodeBinding)
  | members (channelMembers : List ChannelMember) (dmConversations : Table DmConversation)
      (dmParticipants : List DmParticipant)

/-- A change of an agent's row outside the delivery functions: the sequence columns stay. -/
def profiledAgent (name status locationType : String) (locationNodeId : Option NodeId)
    (providerName : String) (lastSeen : Seconds) (a : Agent) : Agent :=
  { a with
    name := name
    status := status
    locationType := locationType
    locationNodeId := locationNodeId
    providerName := providerName
    lastSeen := lastSeen }

lemma key_profiledAgent (name status locationType : String) (locationNodeId : Option NodeId)
    (providerName : String) (lastSeen : Seconds) :
    KeepsId (profiledAgent name status locationType locationNodeId providerName lastSeen) :=
  fun _ => rfl

/-- What a drift does. -/
def drift : Drift → Store → Store
  | .advance ms, s => { s with clock := s.clock + ms }
  | .profile agentId name status locationType locationNodeId providerName lastSeen, s =>
    s.updateAgents (fun a => a.id == agentId)
      (profiledAgent name status locationType locationNodeId providerName lastSeen)
      (key_profiledAgent name status locationType locationNodeId providerName lastSeen)
  | .routes nodes nodeProviders agentNodeBindings, s =>
    { s with
      nodes := nodes
      nodeProviders := nodeProviders
      agentNodeBindings := agentNodeBindings }
  | .members channelMembers dmConversations dmParticipants, s =>
    { s with
      channelMembers := channelMembers
      dmConversations := dmConversations
      dmParticipants := dmParticipants }

/-- The machine of the delivery functions. -/
def machine : Machine lang Store where
  run := run
  Drift := Drift
  drift := drift

end Delivery
