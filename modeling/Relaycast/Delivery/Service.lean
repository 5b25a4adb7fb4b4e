import Relaycast.Delivery.Effects
import Relaycast.Delivery.Replay

/-!
# The delivery service

The calls that can be made on the delivery tables, and the system in which any number of them run
concurrently: message writes, the transitions of the lifecycle, the sweeps, retention and node
replay.  A run starts from a store without deliveries.
-/

namespace Delivery

open Relational Interleaving

/-- A call of one of the delivery functions, with its arguments. -/
inductive Call
  | writeMessage (message : Option Message) (write : DeliveryWrite)
  | ackDelivery (agentId : AgentId) (deliveryId : DeliveryId)
  | failDelivery (agentId : AgentId) (deliveryId : DeliveryId) (error : Option String)
      (retryable : Option Bool)
  | deferDelivery (agentId : AgentId) (deliveryId : DeliveryId) (availableAt : Millis)
      (reason : Option String) (workspacePolicy : Option WorkspaceDeliveryPolicy)
  | ackDeliveriesUpToSeq (nodeId : NodeId) (providerName agentName : String) (upToSeq : ℕ)
  | markDeliveriesDelivered (deliveryIds : List DeliveryId)
  | markRead (messageId : MessageId) (agentId : AgentId)
  | expireDueDeliveryBatch (oneWorkspace : Bool) (now : Millis)
  | deadLetterUnreachableDeliveryBatch (oneWorkspace : Bool) (offlineGraceMs now : Millis)
  | pruneDeliveries (ids : List DeliveryId)
  | pruneMessages (ids : List MessageId)
  | recoverExpired (ids : List DeliveryId) (cutoff : Seconds)
  | replayPendingToNode (nodeId : NodeId) (scope : NodeDeliveryReplayScope)

/-- What a call returns. -/
def Call.Result : Call → Type
  | .writeMessage .. => Except WriteError Unit
  | .ackDelivery .. | .failDelivery .. => Option TransitionResult
  | .deferDelivery .. => Except WorkspaceDeliveryCapacityError (Option TransitionResult)
  | .ackDeliveriesUpToSeq .. => Option CumulativeAck
  | .markDeliveriesDelivered .. => List DeliveryId
  | .markRead .. => Except WriteError (Option ReadReceipt)
  | .expireDueDeliveryBatch .. | .deadLetterUnreachableDeliveryBatch .. => ExpiredDeliveryBatch
  | .pruneDeliveries .. | .pruneMessages .. | .recoverExpired .. => Unit
  | .replayPendingToNode .. => ℕ

/-- The body of a call. -/
def Call.body : (c : Call) → Prog lang c.Result
  | .writeMessage message write => await (.writeMessage message write)
  | .ackDelivery agentId deliveryId => Delivery.ackDelivery agentId deliveryId
  | .failDelivery agentId deliveryId error retryable =>
    Delivery.failDelivery agentId deliveryId error retryable
  | .deferDelivery agentId deliveryId availableAt reason workspacePolicy =>
    Delivery.deferDelivery agentId deliveryId availableAt reason workspacePolicy
  | .ackDeliveriesUpToSeq nodeId providerName agentName upToSeq =>
    Delivery.ackDeliveriesUpToSeq nodeId providerName agentName upToSeq
  | .markDeliveriesDelivered deliveryIds => Delivery.markDeliveriesDelivered deliveryIds
  | .markRead messageId agentId => Delivery.markRead messageId agentId
  | .expireDueDeliveryBatch oneWorkspace now => Delivery.expireDueDeliveryBatch oneWorkspace now
  | .deadLetterUnreachableDeliveryBatch oneWorkspace offlineGraceMs now =>
    Delivery.deadLetterUnreachableDeliveryBatch oneWorkspace offlineGraceMs now
  | .pruneDeliveries ids => await (.pruneDeliveries ids)
  | .pruneMessages ids => await (.pruneMessages ids)
  | .recoverExpired ids cutoff => await (.recoverExpired ids cutoff)
  | .replayPendingToNode nodeId scope => Delivery.replayPendingToNode nodeId scope

/-- The delivery service. -/
def service : System lang Store Call Call.Result where
  toMachine := machine
  body := Call.body
  init s := s.deliveries.rows = []

/-- The delivery service over whatever rows are stored already. -/
def openService : System lang Store Call Call.Result := { service with init := fun _ => True }

/-- The outside world of a run in which every clock reads `now` and every send and readiness check
comes out as `ok`. -/
def steady (now : Millis) (ok : Bool) : (q : Stmt) → q.Answer
  | .ackRows .. | .failUpdate .. | .deferUpdate .. | .dateNow | .markReadWrites ..
  | .hydratePage .. | .replayCurrent .. => now
  | .dueDeliveries .. | .unreachableDeliveries .. => deliveryExpiryBatchSize
  | .providerReady .. | .sendToProvider .. => ok
  | .getOwnedDelivery .. | .ackAgent .. | .ackableUpTo .. | .markDeliveredPage .. | .getMessage ..
  | .channelMembership .. | .dmMembership .. | .getReceipt .. | .expireUpdate ..
  | .livenessAuthority | .unreachableUpdate .. | .writeMessage .. | .pruneDeliveries ..
  | .pruneMessages .. | .recoverExpired .. | .roster .. | .highWater .. | .replayPage ..
  | .fetchAttachments .. | .notifySenders .. => ()

/-! ## A small workspace -/

/-- A workspace with one agent, hosted by a node, and an empty mailbox. -/
def oneAgent (ackSeq : ℕ) : Store where
  clock := 1000000
  nodeLivenessAuthority := false
  agents := Table.empty.insertOrIgnore
    { id := "agt", name := "worker", status := "active", locationType := "via_node",
      locationNodeId := some "node", providerName := "default", deliveryAckSeq := ackSeq,
      deliverySeq := ackSeq, lastSeen := 1000 }
  deliveries := Table.empty
  messages := Table.empty
  hasMessage := fun r hr => absurd hr (Table.not_mem_empty r)
  readReceipts := Table.empty
  nodes := []
  nodeProviders := []
  agentNodeBindings := []
  channelMembers := []
  dmConversations := Table.empty
  dmParticipants := []

/-- A direct delivery to that agent. -/
def directWrite (messageId : MessageId) (depthCap : ℕ) (policy : Option WorkspaceDeliveryPolicy) :
    DeliveryWrite :=
  .direct
    { messageId := messageId, mode := "immediate", ttlMs := 60000, agentId := "agt", reason := "dm",
      depthCap := depthCap, deliveryId := none, workspacePolicy := policy }

/-- A direct message to that agent, under a workspace policy or under none. -/
def directMessage (messageId : MessageId) (depthCap : ℕ)
    (policy : Option WorkspaceDeliveryPolicy) : Call :=
  .writeMessage (some ⟨messageId, "dmch", "sender", none⟩) (directWrite messageId depthCap policy)

/-! ## Which statements a call can issue -/

/-- Statements that neither write nor send. -/
def Stmt.isRead : Stmt → Bool
  | .ackRows .. | .failUpdate .. | .deferUpdate .. | .markDeliveredPage .. | .markReadWrites ..
  | .expireUpdate .. | .unreachableUpdate .. | .writeMessage .. | .pruneDeliveries ..
  | .pruneMessages .. | .recoverExpired .. | .sendToProvider .. => false
  | _ => true

/-- A read leaves the store alone. -/
lemma run_isRead {q : Stmt} (hq : q.isRead = true) (a : q.Answer) (s : Store) :
    (run q a s).2 = s := by
  cases q <;> first | rfl | simp [Stmt.isRead] at hq

/-- The statements a call can write or send with. -/
def Call.writes : Call → Stmt → Prop
  | .writeMessage message write, q => q = .writeMessage message write
  | .ackDelivery .., q => ∃ agentId rows, q = .ackRows agentId rows none
  | .failDelivery _ deliveryId error retryable, q => q = .failUpdate deliveryId error retryable
  | .deferDelivery _ deliveryId availableAt reason workspacePolicy, q =>
    q = .deferUpdate deliveryId availableAt reason workspacePolicy
  | .ackDeliveriesUpToSeq .., q => ∃ agentId rows upTo, q = .ackRows agentId rows upTo
  | .markDeliveriesDelivered .., q => ∃ ids now, q = .markDeliveredPage ids now
  | .markRead _ agentId, q => ∃ msg, q = .markReadWrites msg agentId
  | .expireDueDeliveryBatch _ now, q => ∃ ids, q = .expireUpdate ids now
  | .deadLetterUnreachableDeliveryBatch _ _ now, q =>
    ∃ ids staleBefore, q = .unreachableUpdate ids staleBefore now
  | .pruneDeliveries ids, q => q = .pruneDeliveries ids
  | .pruneMessages ids, q => q = .pruneMessages ids
  | .recoverExpired ids cutoff, q => q = .recoverExpired ids cutoff
  | .replayPendingToNode .., q =>
    (∃ ids now, q = .markDeliveredPage ids now) ∨
      ∃ nodeId providerName frame, q = .sendToProvider nodeId providerName frame

/-- Only a message write writes a message. -/
lemma writes_writeMessage {c : Call} {m : Option Message} {w : DeliveryWrite}
    (h : c.writes (.writeMessage m w)) : c = .writeMessage m w := by
  cases c <;> simp [Call.writes] at h
  rw [h.1, h.2]

/-- Only a defer defers. -/
lemma writes_deferUpdate {c : Call} {deliveryId : DeliveryId} {availableAt : Millis}
    {reason : Option String} {policy : Option WorkspaceDeliveryPolicy}
    (h : c.writes (.deferUpdate deliveryId availableAt reason policy)) :
    ∃ agentId, c = .deferDelivery agentId deliveryId availableAt reason policy := by
  cases c <;> simp [Call.writes] at h
  exact ⟨_, by rw [h.1, h.2.1, h.2.2.1, h.2.2.2]⟩

/-- Only a cumulative ack moves a cumulative cursor. -/
lemma writes_ackRows_some {c : Call} {agentId : AgentId} {rows : List DeliveryWithChannel} {u : ℕ}
    (h : c.writes (.ackRows agentId rows (some u))) :
    ∃ nodeId providerName agentName upToSeq,
      c = .ackDeliveriesUpToSeq nodeId providerName agentName upToSeq := by
  cases c <;> simp [Call.writes] at h
  exact ⟨_, _, _, _, rfl⟩

/-- Only a replay sends. -/
lemma writes_sendToProvider {c : Call} {nodeId : NodeId} {providerName : String}
    {frame : DeliverFrame} (h : c.writes (.sendToProvider nodeId providerName frame)) :
    ∃ nodeId scope, c = .replayPendingToNode nodeId scope := by
  cases c <;> simp [Call.writes] at h
  exact ⟨_, _, rfl⟩

section Issues

open Prog (issues_ask issues_ask_bind)

variable {P : Stmt → Prop}

lemma markPages_issues (hmark : ∀ ids now, P (.markDeliveredPage ids now)) (now : Seconds)
    (xs : List (List DeliveryId)) : (markPages now xs).Issues P := by
  induction xs with
  | nil => trivial
  | cons page rest ih =>
    exact issues_ask_bind (hmark _ _) fun _ => ih.bind fun _ => trivial

lemma ackChunks_issues (hack : ∀ agentId rows upTo, P (.ackRows agentId rows upTo))
    (agentId : AgentId) (upToSeq : ℕ) (chunks : List (List DeliveryWithChannel)) :
    (ackChunks agentId upToSeq chunks).Issues P := by
  induction chunks with
  | nil => trivial
  | cons chunk rest ih =>
    exact issues_ask_bind (hack _ _ _) fun _ => ih.bind fun _ => trivial

variable (hread : ∀ q : Stmt, q.isRead = true → P q)
include hread

lemma resolveTransition_issues (agentId : AgentId) (deliveryId : DeliveryId)
    (updated : Option Row) (channelId : ChannelId) :
    (resolveTransition agentId deliveryId updated channelId).Issues P := by
  cases updated with
  | none => exact issues_ask_bind (hread _ rfl) fun _ => trivial
  | some row => trivial

lemma markDeliveriesDelivered_issues (hmark : ∀ ids now, P (.markDeliveredPage ids now))
    (ids : List DeliveryId) : (markDeliveriesDelivered ids).Issues P :=
  issues_ask_bind (hread _ rfl) fun _ => markPages_issues hmark _ _

lemma sendRows_issues (hsend : ∀ nodeId providerName frame,
      P (.sendToProvider nodeId providerName frame)) (nodeId : NodeId) (recipient : Recipient)
    (rows : List PendingDelivery) : (sendRows nodeId recipient rows).Issues P := by
  induction rows with
  | nil => trivial
  | cons row rest ih =>
    refine issues_ask_bind (hread _ rfl) fun (current : Bool) => ?_
    cases current with
    | false => exact ih
    | true =>
      refine issues_ask_bind (hread _ rfl) fun (isReady : Bool) => ?_
      cases isReady with
      | false => trivial
      | true =>
        refine issues_ask_bind (hsend _ _ _) fun (sent : Bool) => ?_
        cases sent with
        | false => trivial
        | true => exact ih.bind fun _ => trivial

lemma drainPage_issues (hmark : ∀ ids now, P (.markDeliveredPage ids now))
    (hsend : ∀ nodeId providerName frame, P (.sendToProvider nodeId providerName frame))
    (nodeId : NodeId) (recipient : Recipient) (ids : List DeliveryId) :
    (drainPage nodeId recipient ids).Issues P := by
  refine issues_ask_bind (hread _ rfl) fun rows => issues_ask_bind (hread _ rfl) fun _ => ?_
  refine (sendRows_issues hread hsend nodeId recipient rows).bind fun _ => ?_
  refine (markDeliveriesDelivered_issues hread hmark _).bind fun transitioned => ?_
  split_ifs
  · exact issues_ask_bind (hread _ rfl) fun _ => trivial
  · trivial

lemma drainPages_issues (hmark : ∀ ids now, P (.markDeliveredPage ids now))
    (hsend : ∀ nodeId providerName frame, P (.sendToProvider nodeId providerName frame))
    (nodeId : NodeId) (recipient : Recipient) (highWater fuel cursor : ℕ) :
    (drainPages nodeId recipient highWater fuel cursor).Issues P := by
  induction fuel generalizing cursor with
  | zero => trivial
  | succ fuel ih =>
    unfold drainPages
    split_ifs
    · refine issues_ask_bind (hread _ rfl) fun (isReady : Bool) => ?_
      cases isReady with
      | false => trivial
      | true =>
        refine issues_ask_bind (hread _ rfl) fun (page : List (DeliveryId × ℕ)) => ?_
        cases page.getLast? with
        | none => trivial
        | some last =>
          refine (drainPage_issues hread hmark hsend nodeId recipient _).bind ?_
          rintro ⟨sent, goOn⟩
          cases goOn with
          | true => exact (ih last.2).bind fun _ => trivial
          | false => trivial
    · trivial

lemma drainRecipient_issues (hmark : ∀ ids now, P (.markDeliveredPage ids now))
    (hsend : ∀ nodeId providerName frame, P (.sendToProvider nodeId providerName frame))
    (nodeId : NodeId) (recipient : Recipient) : (drainRecipient nodeId recipient).Issues P := by
  refine issues_ask_bind (hread _ rfl) fun (isReady : Bool) => ?_
  cases isReady with
  | false => trivial
  | true =>
    refine issues_ask_bind (hread _ rfl) fun (highWater : Option ℕ) => ?_
    cases highWater with
    | none => trivial
    | some highWater => exact drainPages_issues hread hmark hsend nodeId recipient _ _ _

lemma drainRoster_issues (hmark : ∀ ids now, P (.markDeliveredPage ids now))
    (hsend : ∀ nodeId providerName frame, P (.sendToProvider nodeId providerName frame))
    (nodeId : NodeId) (recipients : List Recipient) : (drainRoster nodeId recipients).Issues P := by
  induction recipients with
  | nil => trivial
  | cons recipient rest ih =>
    exact (drainRecipient_issues hread hmark hsend nodeId recipient).bind fun _ =>
      ih.bind fun _ => trivial

lemma rosterInChunks_issues (nodeId : NodeId) (providerName : Option String)
    (chunks : List (List AgentId)) : (rosterInChunks nodeId providerName chunks).Issues P := by
  induction chunks with
  | nil => trivial
  | cons chunk rest ih =>
    exact issues_ask_bind (hread _ rfl) fun _ => ih.bind fun _ => trivial

lemma replayPendingToNode_issues (hmark : ∀ ids now, P (.markDeliveredPage ids now))
    (hsend : ∀ nodeId providerName frame, P (.sendToProvider nodeId providerName frame))
    (nodeId : NodeId) (scope : NodeDeliveryReplayScope) :
    (replayPendingToNode nodeId scope).Issues P := by
  unfold replayPendingToNode
  split
  · exact issues_ask_bind (hread _ rfl) fun rows => drainRoster_issues hread hmark hsend nodeId rows
  · trivial
  · exact (rosterInChunks_issues hread nodeId _ _).bind fun rows =>
      drainRoster_issues hread hmark hsend nodeId _

lemma ackDelivery_issues (hack : ∀ agentId rows, P (.ackRows agentId rows none))
    (agentId : AgentId) (deliveryId : DeliveryId) : (ackDelivery agentId deliveryId).Issues P := by
  refine issues_ask_bind (hread _ rfl) fun (existing : Option DeliveryWithChannel) => ?_
  cases existing with
  | none => trivial
  | some existing =>
    dsimp only
    split_ifs
    · trivial
    · exact issues_ask_bind (hack _ _) fun _ => resolveTransition_issues hread _ _ _ _

lemma failDelivery_issues (agentId : AgentId) (deliveryId : DeliveryId) (error : Option String)
    (retryable : Option Bool) (hfail : P (.failUpdate deliveryId error retryable)) :
    (failDelivery agentId deliveryId error retryable).Issues P := by
  refine issues_ask_bind (hread _ rfl) fun (existing : Option DeliveryWithChannel) => ?_
  cases existing with
  | none => trivial
  | some existing =>
    dsimp only
    split_ifs
    · trivial
    · exact issues_ask_bind hfail fun _ => resolveTransition_issues hread _ _ _ _

lemma deferDelivery_issues (agentId : AgentId) (deliveryId : DeliveryId) (availableAt : Millis)
    (reason : Option String) (policy : Option WorkspaceDeliveryPolicy)
    (hdefer : P (.deferUpdate deliveryId availableAt reason policy)) :
    (deferDelivery agentId deliveryId availableAt reason policy).Issues P := by
  refine issues_ask_bind (hread _ rfl) fun (existing : Option DeliveryWithChannel) => ?_
  cases existing with
  | none => trivial
  | some existing =>
    dsimp only
    split_ifs
    · trivial
    · refine issues_ask_bind hdefer fun (updated : Option Row) => ?_
      split_ifs
      · refine issues_ask_bind (hread _ rfl) fun current =>
          issues_ask_bind (hread _ rfl) fun now => ?_
        split_ifs
        · trivial
        · exact (resolveTransition_issues hread _ _ _ _).bind fun _ => trivial
      · exact (resolveTransition_issues hread _ _ _ _).bind fun _ => trivial

lemma ackDeliveriesUpToSeq_issues (hack : ∀ agentId rows upTo, P (.ackRows agentId rows upTo))
    (nodeId : NodeId) (providerName agentName : String) (upToSeq : ℕ) :
    (ackDeliveriesUpToSeq nodeId providerName agentName upToSeq).Issues P := by
  refine issues_ask_bind (hread _ rfl) fun (agent : Option Agent) => ?_
  cases agent with
  | none => trivial
  | some agent =>
    dsimp only
    split_ifs
    · trivial
    · refine issues_ask_bind (hread _ rfl) fun (pending : List DeliveryWithChannel) => ?_
      split_ifs
      · exact issues_ask_bind (hack _ _ _) fun _ => trivial
      · exact (ackChunks_issues hack _ _ _).bind fun _ => trivial

lemma writeRead_issues {msg : Message} {agentId : AgentId} (hmark : P (.markReadWrites msg agentId))
    (messageId : MessageId) (authorized : Bool) :
    (if authorized then do
      let written : Except WriteError Unit ← await (.markReadWrites msg agentId)
      match written with
      | .error e => return .error e
      | .ok () =>
        let receipt : Option ReadReceipt ← await (.getReceipt messageId agentId)
        return .ok receipt
    else return .ok none : Prog lang (Except WriteError (Option ReadReceipt))).Issues P := by
  split_ifs
  · refine issues_ask_bind hmark fun (written : Except WriteError Unit) => ?_
    cases written with
    | error e => trivial
    | ok => exact issues_ask_bind (hread _ rfl) fun _ => trivial
  · trivial

lemma markRead_issues (messageId : MessageId) (agentId : AgentId)
    (hmark : ∀ msg, P (.markReadWrites msg agentId)) : (markRead messageId agentId).Issues P := by
  refine issues_ask_bind (hread _ rfl) fun (msg : Option Message) => ?_
  cases msg with
  | none => trivial
  | some msg =>
    refine issues_ask_bind (hread _ rfl) fun (member : Bool) => ?_
    cases member with
    | true => exact writeRead_issues hread (hmark msg) messageId true
    | false => exact issues_ask_bind (hread _ rfl) (writeRead_issues hread (hmark msg) messageId)

lemma expireDueDeliveryBatch_issues (oneWorkspace : Bool) (now : Millis)
    (hexpire : ∀ ids, P (.expireUpdate ids now)) :
    (expireDueDeliveryBatch oneWorkspace now).Issues P := by
  refine issues_ask_bind (hread _ rfl) fun (due : List DueDelivery) => ?_
  split_ifs
  · trivial
  · exact issues_ask_bind (hexpire _) fun _ => trivial

lemma deadLetterUnreachableDeliveryBatch_issues (oneWorkspace : Bool) (offlineGraceMs now : Millis)
    (hdead : ∀ ids staleBefore, P (.unreachableUpdate ids staleBefore now)) :
    (deadLetterUnreachableDeliveryBatch oneWorkspace offlineGraceMs now).Issues P := by
  refine issues_ask_bind (hread _ rfl) fun (authority : Bool) => ?_
  cases authority with
  | true => trivial
  | false =>
    refine issues_ask_bind (hread _ rfl) fun (due : List DueDelivery) => ?_
    split_ifs
    · trivial
    · exact issues_ask_bind (hdead _ _) fun _ => trivial

end Issues

/-- **What a call can issue**: reads, and the writes of its kind. -/
theorem body_issues (c : Call) :
    c.body.Issues fun q : Stmt => q.isRead = true ∨ c.writes q := by
  have hread : ∀ q : Stmt, q.isRead = true → q.isRead = true ∨ c.writes q := fun _ h => .inl h
  cases c with
  | writeMessage => exact Prog.issues_ask (.inr rfl)
  | ackDelivery agentId deliveryId =>
    exact ackDelivery_issues hread (fun _ _ => .inr ⟨_, _, rfl⟩) agentId deliveryId
  | failDelivery => exact failDelivery_issues hread _ _ _ _ (.inr rfl)
  | deferDelivery => exact deferDelivery_issues hread _ _ _ _ _ (.inr rfl)
  | ackDeliveriesUpToSeq =>
    exact ackDeliveriesUpToSeq_issues hread (fun _ _ _ => .inr ⟨_, _, _, rfl⟩) _ _ _ _
  | markDeliveriesDelivered =>
    exact markDeliveriesDelivered_issues hread (fun _ _ => .inr ⟨_, _, rfl⟩) _
  | markRead => exact markRead_issues hread _ _ fun _ => .inr ⟨_, rfl⟩
  | expireDueDeliveryBatch =>
    exact expireDueDeliveryBatch_issues hread _ _ fun _ => .inr ⟨_, rfl⟩
  | deadLetterUnreachableDeliveryBatch =>
    exact deadLetterUnreachableDeliveryBatch_issues hread _ _ _ fun _ _ => .inr ⟨_, _, rfl⟩
  | pruneDeliveries => exact Prog.issues_ask (.inr rfl)
  | pruneMessages => exact Prog.issues_ask (.inr rfl)
  | recoverExpired => exact Prog.issues_ask (.inr rfl)
  | replayPendingToNode =>
    exact replayPendingToNode_issues hread (fun _ _ => .inr (.inl ⟨_, _, rfl⟩))
      (fun _ _ _ => .inr (.inr ⟨_, _, _, rfl⟩)) _ _

end Delivery
