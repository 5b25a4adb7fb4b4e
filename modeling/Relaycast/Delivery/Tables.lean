import Relaycast.Relational.Table

/-!
# The delivery tables

The rows behind a mailbox: `deliveries` and the agents they are for, the messages they carry, the
nodes and bindings they are routed by, and the memberships and read cursors an acknowledgement
moves.  Instants are in milliseconds where the engine holds a `Date` and in seconds where the
database stores one; `Store.clock` is the database's clock in milliseconds and `unixepoch` its
second.

The tables are those of one workspace.  Every statement of this area is scoped to a workspace, so
the `workspace_id` column and the tests on it are left out; a sweep over all workspaces is one
whose page holds some number of this workspace's rows.  Columns no modelled function reads or
writes are left out too.
-/

namespace Delivery

open Relational

abbrev AgentId := String
abbrev MessageId := String
abbrev DeliveryId := String
abbrev NodeId := String
abbrev ChannelId := String
abbrev ConversationId := String

/-- Milliseconds, as a `Date` holds them. -/
abbrev Millis := ℕ

/-- Seconds, as a timestamp column holds them. -/
abbrev Seconds := ℕ

/-- What a timestamp column stores of a `Date`. -/
def toSeconds (at' : Millis) : Seconds := at' / 1000

/-- `deliveries.status`. -/
inductive DeliveryStatus
  | queued
  | delivered
  | acked
  | failed
  | deadLettered
  deriving DecidableEq

namespace DeliveryStatus

/-- `status IN ('queued', 'delivered')`. -/
def isActive : DeliveryStatus → Bool
  | queued | delivered => true
  | acked | failed | deadLettered => false

/-- `status IN ('acked', 'dead_lettered')`: nothing may leave these. -/
def isTerminal : DeliveryStatus → Bool
  | acked | deadLettered => true
  | queued | delivered | failed => false

/-- `status IN ('acked', 'dead_lettered', 'failed')`. -/
def isSettled : DeliveryStatus → Bool
  | acked | deadLettered | failed => true
  | queued | delivered => false

lemma isSettled_eq_not_isActive (s : DeliveryStatus) : s.isSettled = !s.isActive := by
  cases s <;> rfl

lemma isTerminal_of_isSettled_of_ne_failed {s : DeliveryStatus} (h : s.isSettled = true)
    (hf : s ≠ .failed) : s.isTerminal = true := by
  cases s <;> simp_all [isSettled, isTerminal]

lemma not_isTerminal_of_isActive {s : DeliveryStatus} (h : s.isActive = true) :
    s.isTerminal = false := by
  cases s <;> simp_all [isActive, isTerminal]

end DeliveryStatus

/-- A row of `deliveries`. -/
structure Row where
  id : DeliveryId
  messageId : MessageId
  agentId : AgentId
  mode : String
  reason : Option String
  priority : String
  deadline : Option Seconds
  status : DeliveryStatus
  seq : ℕ
  locationType : String
  locationNodeId : Option NodeId
  routeNodeId : Option NodeId
  routeNodeKind : Option String
  routeNodeRole : Option String
  deliveryAdapter : Option String
  dispatchAttempts : ℕ
  nextAttemptAt : Option Seconds
  lastDispatchError : Option String
  expiresAt : Option Seconds
  deliveredAt : Option Seconds
  ackedAt : Option Seconds
  deadLetteredAt : Option Seconds
  retryable : Option Bool
  availableAt : Option Seconds
  error : Option String
  createdAt : Seconds
  updatedAt : Option Seconds

/-- The columns of `deliveries` under a unique index. -/
structure RowKey where
  id : DeliveryId
  messageId : MessageId
  agentId : AgentId
  seq : ℕ
  deriving DecidableEq

namespace RowKey

/-- `deliveries.id`, `deliveries_message_agent_unique`, `deliveries_agent_seq_unique`. -/
def clash (k k' : RowKey) : Bool :=
  k.id == k'.id || (k.messageId == k'.messageId && k.agentId == k'.agentId) ||
    (k.agentId == k'.agentId && k.seq == k'.seq)

lemma clash_comm (k k' : RowKey) : k.clash k' = k'.clash k := by
  rw [clash, clash, BEq.comm (a := k.id), BEq.comm (a := k.messageId), BEq.comm (a := k.agentId),
    BEq.comm (a := k.seq)]

end RowKey

instance : Keyed Row where
  Key := RowKey
  key r := ⟨r.id, r.messageId, r.agentId, r.seq⟩
  clash := RowKey.clash
  clash_comm := RowKey.clash_comm

/-- A row of `agents`. -/
structure Agent where
  id : AgentId
  name : String
  status : String
  locationType : String
  locationNodeId : Option NodeId
  providerName : String
  deliveryAckSeq : ℕ
  deliverySeq : ℕ
  lastSeen : Seconds
  deriving DecidableEq

instance : Keyed Agent where
  Key := AgentId
  key a := a.id
  clash k k' := k == k'
  clash_comm _ _ := BEq.comm

/-- A row of `messages`. -/
structure Message where
  id : MessageId
  channelId : ChannelId
  agentId : AgentId
  threadId : Option MessageId
  deriving DecidableEq

instance : Keyed Message where
  Key := MessageId
  key m := m.id
  clash k k' := k == k'
  clash_comm _ _ := BEq.comm

/-- A row of `nodes`. -/
structure Node where
  id : NodeId
  kind : String
  role : String
  deliveryAdapter : String
  status : String
  lastHeartbeatAt : Option Seconds
  deriving DecidableEq

/-- A row of `node_providers`. -/
structure NodeProvider where
  nodeId : NodeId
  name : String
  status : String
  lastHeartbeatAt : Option Seconds
  deriving DecidableEq

/-- A row of `agent_node_bindings`. -/
structure AgentNodeBinding where
  agentId : AgentId
  nodeId : NodeId
  status : String
  deriving DecidableEq

/-- A row of `channel_members`. -/
structure ChannelMember where
  channelId : ChannelId
  agentId : AgentId
  isMuted : Bool
  lastReadId : Option MessageId
  deriving DecidableEq

/-- A row of `dm_conversations`. -/
structure DmConversation where
  id : ConversationId
  channelId : ChannelId
  dmType : String
  deriving DecidableEq

/-- `channel_id` is not under a unique index, but a conversation is only ever created together with
a channel of its own. -/
instance : Keyed DmConversation where
  Key := ConversationId × ChannelId
  key c := (c.id, c.channelId)
  clash k k' := k.1 == k'.1 || k.2 == k'.2
  clash_comm k k' := by rw [BEq.comm (a := k.1), BEq.comm (a := k.2)]

/-- A row of `dm_participants`. -/
structure DmParticipant where
  conversationId : ConversationId
  agentId : AgentId
  leftAt : Option Seconds
  lastReadId : Option MessageId
  deriving DecidableEq

/-- A row of `read_receipts`. -/
structure ReadReceipt where
  messageId : MessageId
  agentId : AgentId
  readAt : Seconds
  deriving DecidableEq

instance : Keyed ReadReceipt where
  Key := MessageId × AgentId
  key r := (r.messageId, r.agentId)
  clash k k' := k == k'
  clash_comm _ _ := BEq.comm

/-- The tables a mailbox lives in, and the database's clock.  `nodeLivenessAuthority` says that the
liveness of nodes is answered by a service outside the database; it is a property of the handle.
A delivery refers to a stored message: that foreign key is part of the store. -/
structure Store where
  clock : Millis
  nodeLivenessAuthority : Bool
  agents : Table Agent
  deliveries : Table Row
  messages : Table Message
  hasMessage : ∀ r ∈ deliveries, ∃ m ∈ messages, m.id = r.messageId
  readReceipts : Table ReadReceipt
  nodes : List Node
  nodeProviders : List NodeProvider
  agentNodeBindings : List AgentNodeBinding
  channelMembers : List ChannelMember
  dmConversations : Table DmConversation
  dmParticipants : List DmParticipant

/-- Not past its expiry at the second `now`: `expires_at IS NULL OR expires_at > now`. -/
def Row.unexpired (r : Row) (now : Seconds) : Bool :=
  match r.expiresAt with
  | none => true
  | some e => decide (now < e)

/-- What a mailbox and a workspace are charged for: queued or delivered, and unexpired. -/
def Row.countsAt (r : Row) (now : Seconds) : Bool := r.status.isActive && r.unexpired now

/-- An update of `deliveries` leaves its indexed columns alone. -/
abbrev KeepsKey (f : Row → Row) : Prop := ∀ r, key (f r) = key r

lemma KeepsKey.id {f : Row → Row} (hf : KeepsKey f) (r : Row) : (f r).id = r.id :=
  congrArg RowKey.id (hf r)

lemma KeepsKey.messageId {f : Row → Row} (hf : KeepsKey f) (r : Row) :
    (f r).messageId = r.messageId := congrArg RowKey.messageId (hf r)

lemma KeepsKey.agentId {f : Row → Row} (hf : KeepsKey f) (r : Row) :
    (f r).agentId = r.agentId := congrArg RowKey.agentId (hf r)

lemma KeepsKey.seq {f : Row → Row} (hf : KeepsKey f) (r : Row) : (f r).seq = r.seq :=
  congrArg RowKey.seq (hf r)

/-- An update of `agents` leaves the id alone. -/
abbrev KeepsId (f : Agent → Agent) : Prop := ∀ a, key (f a) = key a

/-- What the trigger `deliveries_advance_sequence_high_water` does to the recipient's row. -/
def Agent.advanceSeq (seq : ℕ) (a : Agent) : Agent :=
  { a with deliverySeq := max a.deliverySeq seq }

lemma Agent.key_advanceSeq (seq : ℕ) : KeepsId (Agent.advanceSeq seq) := fun _ => rfl

/-! ## The writes all statements are made of -/

namespace Store

variable (s : Store)

/-- `unixepoch()`. -/
def unixepoch : Seconds := toSeconds s.clock

/-- `UPDATE deliveries SET f WHERE p`. -/
def updateDeliveries (p : Row → Bool) (f : Row → Row) (hf : KeepsKey f) : Store :=
  { s with
    deliveries := s.deliveries.update p f hf
    hasMessage := by
      intro r hr
      rcases Table.mem_update_cases hr with ⟨hr, _⟩ | ⟨r₀, hr₀, _, rfl⟩
      · exact s.hasMessage r hr
      · simpa only [hf.messageId] using s.hasMessage r₀ hr₀ }

/-- `UPDATE agents SET f WHERE p`. -/
def updateAgents (p : Agent → Bool) (f : Agent → Agent) (hf : KeepsId f) : Store :=
  { s with agents := s.agents.update p f hf }

/-- `INSERT INTO deliveries … ON CONFLICT DO NOTHING` of a row whose message is stored, with the
trigger `deliveries_advance_sequence_high_water`. -/
def addDelivery (r : Row) (hr : ∃ m ∈ s.messages, m.id = r.messageId) : Store :=
  if s.deliveries.conflicts r then s
  else
    { s with
      deliveries := s.deliveries.insertOrIgnore r
      hasMessage := by
        intro r' hr'
        rcases Table.mem_insertOrIgnore hr' with hr' | ⟨rfl, _⟩
        · exact s.hasMessage r' hr'
        · exact hr
      agents := s.agents.update (fun a => a.id == r.agentId) (Agent.advanceSeq r.seq)
        (Agent.key_advanceSeq r.seq) }

/-- `INSERT INTO messages`. -/
def addMessage (m : Message) (h : s.messages.conflicts m = false) : Store :=
  { s with
    messages := s.messages.insert m h
    hasMessage := by
      intro r hr
      obtain ⟨m', hm', hid⟩ := s.hasMessage r hr
      exact ⟨m', List.mem_append_left _ hm', hid⟩ }

/-- `DELETE FROM deliveries WHERE p`. -/
def deleteDeliveries (p : Row → Bool) : Store :=
  { s with
    deliveries := s.deliveries.deleteWhere p
    hasMessage := fun r hr => s.hasMessage r (Table.mem_deleteWhere.mp hr).1 }

/-- `DELETE FROM messages WHERE p`, cascading to deliveries and read receipts. -/
def deleteMessages (p : Message → Bool) : Store :=
  let gone := fun id => s.messages.rows.any fun m => p m && m.id == id
  { s with
    messages := s.messages.deleteWhere p
    deliveries := s.deliveries.deleteWhere fun r => gone r.messageId
    hasMessage := by
      intro r hr
      obtain ⟨hr, hgone⟩ := Table.mem_deleteWhere.mp hr
      obtain ⟨m, hm, hid⟩ := s.hasMessage r hr
      refine ⟨m, Table.mem_deleteWhere.mpr ⟨hm, ?_⟩, hid⟩
      simpa [hid] using List.any_eq_false.mp hgone m hm
    readReceipts := s.readReceipts.deleteWhere fun r => gone r.messageId }

section Simp

variable (p : Row → Bool) (f : Row → Row) (hf : KeepsKey f)

@[simp] lemma updateDeliveries_deliveries :
    (s.updateDeliveries p f hf).deliveries = s.deliveries.update p f hf := rfl

@[simp] lemma updateDeliveries_agents : (s.updateDeliveries p f hf).agents = s.agents := rfl

@[simp] lemma updateDeliveries_clock : (s.updateDeliveries p f hf).clock = s.clock := rfl

@[simp] lemma updateAgents_deliveries (q : Agent → Bool) (g : Agent → Agent)
    (hg : KeepsId g) : (s.updateAgents q g hg).deliveries = s.deliveries := rfl

@[simp] lemma updateAgents_agents (q : Agent → Bool) (g : Agent → Agent)
    (hg : KeepsId g) : (s.updateAgents q g hg).agents = s.agents.update q g hg := rfl

@[simp] lemma updateAgents_clock (q : Agent → Bool) (g : Agent → Agent)
    (hg : KeepsId g) : (s.updateAgents q g hg).clock = s.clock := rfl

@[simp] lemma addDelivery_clock (r : Row) (hr) : (s.addDelivery r hr).clock = s.clock := by
  unfold addDelivery
  split_ifs <;> rfl

@[simp] lemma addDelivery_messages (r : Row) (hr) :
    (s.addDelivery r hr).messages = s.messages := by
  unfold addDelivery
  split_ifs <;> rfl

@[simp] lemma addMessage_deliveries (m : Message) (h) :
    (s.addMessage m h).deliveries = s.deliveries := rfl

@[simp] lemma addMessage_agents (m : Message) (h) : (s.addMessage m h).agents = s.agents := rfl

@[simp] lemma addMessage_clock (m : Message) (h) : (s.addMessage m h).clock = s.clock := rfl

@[simp] lemma deleteDeliveries_deliveries :
    (s.deleteDeliveries p).deliveries = s.deliveries.deleteWhere p := rfl

@[simp] lemma deleteDeliveries_agents : (s.deleteDeliveries p).agents = s.agents := rfl

@[simp] lemma deleteDeliveries_clock : (s.deleteDeliveries p).clock = s.clock := rfl

@[simp] lemma deleteMessages_agents (q : Message → Bool) :
    (s.deleteMessages q).agents = s.agents := rfl

@[simp] lemma deleteMessages_clock (q : Message → Bool) :
    (s.deleteMessages q).clock = s.clock := rfl

lemma mem_of_mem_deleteMessages {q : Message → Bool} {r : Row}
    (hr : r ∈ (s.deleteMessages q).deliveries) : r ∈ s.deliveries :=
  (Table.mem_deleteWhere.mp hr).1

end Simp

end Store

/-! ## Rows by id -/

namespace Store

variable (s : Store)

/-- The stored delivery with an id. -/
def delivery? (x : DeliveryId) : Option Row := s.deliveries.rows.find? fun r => r.id == x

/-- A delivery is determined by its id. -/
lemma row_ext {r r' : Row} (hr : r ∈ s.deliveries) (hr' : r' ∈ s.deliveries) (h : r.id = r'.id) :
    r = r' := by
  refine Table.eq_of_clash hr hr' ?_
  show RowKey.clash _ _ = true
  rw [RowKey.clash, show (key r).id = (key r').id from h]
  simp

/-- A delivery is determined by its agent and its sequence. -/
lemma row_ext_seq {r r' : Row} (hr : r ∈ s.deliveries) (hr' : r' ∈ s.deliveries)
    (hid : r.agentId = r'.agentId) (hseq : r.seq = r'.seq) : r = r' := by
  refine Table.eq_of_clash hr hr' ?_
  show RowKey.clash _ _ = true
  rw [RowKey.clash, show (key r).agentId = (key r').agentId from hid,
    show (key r).seq = (key r').seq from hseq]
  simp

/-- Stored ids are distinct. -/
lemma nodup_ids : (s.deliveries.rows.map Row.id).Nodup := by
  refine s.deliveries.nodup_map fun r r' h => ?_
  show RowKey.clash _ _ = true
  rw [RowKey.clash, show (key r).id = (key r').id from h]
  simp

/-- The ids of agents are distinct. -/
lemma nodup_agent_ids : (s.agents.rows.map Agent.id).Nodup :=
  s.agents.nodup_map fun _ _ h => beq_iff_eq.mpr h

lemma nodup_select_ids (p : Row → Bool) : ((s.deliveries.select p).map Row.id).Nodup :=
  s.nodup_ids.sublist (List.filter_sublist.map _)

lemma delivery?_eq_some {x : DeliveryId} {r : Row} :
    s.delivery? x = some r ↔ r ∈ s.deliveries ∧ r.id = x := by
  constructor
  · intro h
    exact ⟨List.mem_of_find?_eq_some h, by simpa using List.find?_some h⟩
  · rintro ⟨hr, rfl⟩
    cases h : s.delivery? r.id with
    | none => simpa using List.find?_eq_none.mp h r hr
    | some r' =>
      have hid : r'.id = r.id := by simpa using List.find?_some h
      exact congrArg some (s.row_ext (List.mem_of_find?_eq_some h) hr hid)

end Store

/-! ## Read cursors -/

/-- `CAST(text AS BIGINT)` of a message id, which is a string of decimal digits. -/
def castBigint (text : String) : ℕ :=
  (text.toList.takeWhile Char.isDigit).foldl (fun n c => 10 * n + (c.toNat - '0'.toNat)) 0

/-- Does a read cursor move when `messageId` is read?  It only moves forward. -/
def cursorBehind (lastReadId : Option MessageId) (messageId : MessageId) : Bool :=
  match lastReadId with
  | none => true
  | some last => decide (castBigint last < castBigint messageId)

namespace Store

/-- The read cursor writes of an acknowledged or read message: the member of the channel and the
participants of the DM conversations behind it (`advanceDmParticipantReadCursor`). -/
def advanceReadCursors (s : Store) (agentId : AgentId) (channelId : ChannelId)
    (messageId : MessageId) : Store :=
  { s with
    channelMembers := s.channelMembers.map fun m =>
      if m.channelId == channelId && m.agentId == agentId && cursorBehind m.lastReadId messageId
      then { m with lastReadId := some messageId } else m
    dmParticipants := s.dmParticipants.map fun p =>
      if p.agentId == agentId && p.leftAt.isNone &&
          (s.dmConversations.rows.any fun c =>
            c.id == p.conversationId && c.channelId == channelId) &&
          cursorBehind p.lastReadId messageId
      then { p with lastReadId := some messageId } else p }

/-- `INSERT INTO read_receipts … ON CONFLICT DO NOTHING`. -/
def addReadReceipt (s : Store) (messageId : MessageId) (agentId : AgentId) : Store :=
  { s with
    readReceipts := s.readReceipts.insertOrIgnore ⟨messageId, agentId, s.unixepoch⟩ }

end Store

end Delivery
