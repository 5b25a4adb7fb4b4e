import Relaycast.Interleaving.Throwing
import Relaycast.Relational.Table
import Relaycast.Relational.Timestamp
import Relaycast.Script.Json

/-!
# Messages received from other systems

What a registered A2A peer sends is admitted in one batch: the message, the counter of its
registration, the delivery, and the row of `a2a_inbound` under the identity it came with.  Pruning
the message empties that row; the row itself goes when its day is over.  A key-value store stands
beside the tables.  Any access to it can fail, before or after it took effect, and its entries can
expire at any time.
-/

namespace Inbound

open Relational Interleaving Script

abbrev WorkspaceId := String
abbrev AgentId := String
abbrev PeerId := String
abbrev MessageId := String
abbrev DeliveryId := String
abbrev ChannelId := String
abbrev ConversationId := String
abbrev InboundId := String

/-- A digest, in hex. -/
abbrev Hash := String

/-- The fields of a metadata object. -/
abbrev Metadata := List (String × Json)

/-! ## Rows -/

/-- `AcceptedDmResult`, as far as a message without attachments has it. -/
structure Accepted where
  conversationId : ConversationId
  id : MessageId
  fromAgentId : AgentId
  agentName : String
  recipient : String
  text : String
  injectionMode : String
  metadata : Metadata
  createdAt : Millis

/-- A row of `a2a_inbound`. -/
structure InboundRow where
  id : InboundId
  workspaceId : WorkspaceId
  messageId : Option MessageId
  fingerprint : Hash
  response : Option Accepted
  createdAt : Seconds

/-- The day an identity is kept. -/
def DAY : Millis := 86400000

/-- When the row is over. -/
def InboundRow.expiresAt (r : InboundRow) : Millis := toDate r.createdAt + DAY

instance : Keyed InboundRow where
  Key := InboundId
  key r := r.id
  clash k k' := k == k'
  clash_comm _ _ := BEq.comm

/-- A row of `messages`. -/
structure MessageRow where
  id : MessageId
  workspaceId : WorkspaceId
  channelId : ChannelId
  agentId : AgentId
  body : String
  createdAt : Seconds
  deriving DecidableEq

instance : Keyed MessageRow where
  Key := MessageId
  key r := r.id
  clash k k' := k == k'
  clash_comm _ _ := BEq.comm

/-- A row of `deliveries`. -/
structure DeliveryRow where
  id : DeliveryId
  messageId : MessageId
  agentId : AgentId
  deriving DecidableEq

instance : Keyed DeliveryRow where
  Key := DeliveryId × MessageId × AgentId
  key r := (r.id, r.messageId, r.agentId)
  clash k k' := k.1 == k'.1 || k.2 == k'.2
  clash_comm k k' := by simp only [BEq.comm]

/-- A row of `a2a_agents`: a registration. -/
structure Peer where
  id : PeerId
  workspaceId : WorkspaceId
  relayAgentId : AgentId
  messagesRecv : ℕ
  deriving DecidableEq

instance : Keyed Peer where
  Key := PeerId
  key r := r.id
  clash k k' := k == k'
  clash_comm _ _ := BEq.comm

/-- A row of `agents`. -/
structure AgentRow where
  id : AgentId
  workspaceId : WorkspaceId
  name : String
  tokenHash : Hash
  deriving DecidableEq

instance : Keyed AgentRow where
  Key := AgentId
  key r := r.id
  clash k k' := k == k'
  clash_comm _ _ := BEq.comm

/-! ## Values of the key-value store -/

/-- The `message` of a legacy acceptance. -/
structure LegacyMessage where
  id : MessageId
  agentId : AgentId
  agentName : String
  text : String
  injectionMode : String
  metadata : Metadata

/-- What `legacyInboundSchema` parses. -/
structure Legacy where
  conversationId : ConversationId
  createdAt : Millis
  id : MessageId
  fromAgentId : AgentId
  recipient : String
  text : String
  injectionMode : String
  metadata : Metadata
  message : LegacyMessage

/-- The response a legacy acceptance stands for. -/
def Legacy.accepted (l : Legacy) : Accepted where
  conversationId := l.conversationId
  id := l.id
  fromAgentId := l.fromAgentId
  agentName := l.message.agentName
  recipient := l.recipient
  text := l.text
  injectionMode := l.injectionMode
  metadata := l.metadata
  createdAt := l.createdAt

/-- The `data` of a stored record: nothing, a text or a number, or an object, of which it matters
whether it has a `message` and what `legacyInboundSchema` parses it to. -/
inductive StoredData
  | absent
  | scalar
  | object (hasMessage : Bool) (legacy : Option Legacy)

/-- A stored text: no JSON, what `sqlInboundCompletionSchema` accepts, or any other record. -/
inductive Raw
  | malformed
  | completion (status : ℕ) (id : MessageId) (fingerprint : Hash)
  | record (status : Option ℕ) (data : StoredData) (fingerprint : Option String)
      (fingerprints : List String)

/-- The `'1'` of a lock. -/
def Raw.one : Raw := .record none .absent none []

/-! ## Failures -/

/-- What a driver throws where no constraint refuses the statement. -/
inductive StorageError
  | capacity
  | unavailable
  deriving DecidableEq

/-- What a function can throw; `unfinished` is that of a send which has started over as often as
it is followed. -/
inductive Failure
  | uniqueConstraint
  | registrationChanged
  | storage (cause : StorageError)
  | kv
  | syntaxError
  | typeError
  | coded (message code : String) (status : ℕ)
  | unfinished
  deriving DecidableEq

/-- How a write comes out: it commits, it is lost before it reaches the store, or it commits and
its reply is lost. -/
inductive Fate
  | commits
  | fails (cause : StorageError)
  | loses (cause : StorageError)
  deriving DecidableEq

/-- Does the write reach the store? -/
def Fate.reaches : Fate → Bool
  | .fails _ => false
  | _ => true

/-! ## The store -/

/-- The tables, the key-value store and the clock. -/
structure Store where
  inbound : Table InboundRow
  messages : Table MessageRow
  deliveries : Table DeliveryRow
  peers : Table Peer
  agents : Table AgentRow
  conversations : List (ConversationId × ChannelId)
  kv : String → Option Raw
  clock : Millis

/-- The batch of an admission. -/
structure Batch where
  message : MessageRow
  peerId : PeerId
  tokenHash : Hash
  delivery : Option DeliveryRow
  inboundId : Option InboundId
  fingerprint : Hash
  response : Accepted

/-- What a legacy acceptance is promoted with. -/
structure Promotion where
  inboundId : InboundId
  workspaceId : WorkspaceId
  fromAgentId : AgentId
  peerId : PeerId
  tokenHash : Hash
  fingerprint : Hash
  legacy : Legacy

/-! ## Statements -/

/-- The statements; `parallel` asks which of two accesses issued together is answered first. -/
inductive Stmt
  | parallel
  | now
  | generateId
  | kvGet (key : String)
  | kvPut (key : String) (value : Raw)
  | kvDelete (key : String)
  | inbound (id : InboundId)
  | deleteInbound (id : InboundId) (now : Millis)
  | resolveWorkspaceDeliveryPolicy
  | recipient (workspaceId : WorkspaceId) (fromAgentId : AgentId) (name : String)
  | sender (workspaceId : WorkspaceId) (id : AgentId)
  | resolveConversation (fromAgentId toAgentId : AgentId)
  | persist (batch : Batch)
  | outcomes (messageId : MessageId) (agentId : AgentId)
  | source (id : MessageId)
  | promote (promotion : Promotion)
  | sweepInbound (now : Millis)
  | pruneMessages (ids : List MessageId)
  | rotateToken (agentId : AgentId) (tokenHash : Hash)
  | addPeer (peer : Peer)
  | removePeer (id : PeerId)

/-- What the outside world contributes: an order, an id, how an access comes out, which
conversation stands between two agents, whether the mailbox takes a delivery, and which expired
rows a sweep takes. -/
def Stmt.Answer : Stmt → Type
  | .parallel => Bool
  | .now => Unit
  | .generateId => String
  | .kvPut .. | .kvDelete _ | .promote _ | .deleteInbound .. => Fate
  | .resolveConversation .. => Option StorageError × ConversationId × ChannelId
  | .persist _ => Fate × Bool
  | .sweepInbound _ => List InboundId
  | .pruneMessages _ | .rotateToken .. | .addPeer _ | .removePeer _ => Unit
  | _ => Option StorageError

/-- What each statement gives when it does not fail. -/
def Stmt.Value : Stmt → Type
  | .parallel => Bool
  | .now => Millis
  | .generateId => String
  | .kvGet _ => Option Raw
  | .inbound _ => Option InboundRow
  | .recipient .. | .sender .. => Option AgentRow
  | .resolveConversation .. => ConversationId × ChannelId
  | .outcomes .. => Option DeliveryRow
  | .source _ => Option MessageRow
  | _ => Unit

/-- The language of inbound messages. -/
abbrev lang : Language where
  Stmt := Stmt
  Answer := Stmt.Answer
  Reply q := Except Failure q.Value

/-- A function that can throw. -/
abbrev Program : Type → Type := Throwing lang Failure

/-- Issue one statement, and throw what it replies if it fails. -/
def query (q : Stmt) : Program q.Value := ExceptT.mk (Prog.ask (L := lang) q)

namespace Store

variable (s : Store)

def inbound? (id : InboundId) : Option InboundRow := s.inbound.rows.find? (·.id == id)

/-- The token of the agent, and the registration that stands for it. -/
def isAuthenticated (workspaceId : WorkspaceId) (agentId : AgentId) (peerId : PeerId)
    (tokenHash : Hash) : Bool :=
  s.peers.rows.any (fun peer => peer.id == peerId && peer.workspaceId == workspaceId &&
      peer.relayAgentId == agentId) &&
    s.agents.rows.any fun agent => agent.id == agentId && agent.workspaceId == workspaceId &&
      agent.tokenHash == tokenHash

/-- The select of `sendDm`. -/
def recipient? (workspaceId : WorkspaceId) (fromAgentId : AgentId) (name : String) :
    Option AgentRow :=
  s.agents.rows.find? fun agent => agent.workspaceId == workspaceId &&
    if name == "@self" then agent.id == fromAgentId else agent.name == name

/-- `SET messages_recv = messages_recv + 1`. -/
def countReceived (peer : Peer) : Peer := { peer with messagesRecv := peer.messagesRecv + 1 }

end Store

namespace Batch

variable (b : Batch)

/-- The row of `a2a_inbound`, with the time the database stamps. -/
def inboundRow (createdAt : Seconds) : Option InboundRow :=
  b.inboundId.map fun id =>
    ⟨id, b.message.workspaceId, some b.message.id, b.fingerprint, some b.response, createdAt⟩

/-- Does a unique index refuse the message or the row of the identity? -/
def conflicts (s : Store) : Bool :=
  s.messages.conflicts b.message || (b.inboundRow (toSeconds s.clock)).any s.inbound.conflicts

/-- What refuses the batch: the message has no author once the registration has changed. -/
def refusal (s : Store) : Option Failure :=
  if !s.isAuthenticated b.message.workspaceId b.message.agentId b.peerId b.tokenHash then
    some .registrationChanged
  else if b.conflicts s then some .uniqueConstraint else none

/-- The registration that counts the message. -/
def isCountedBy (peer : Peer) : Bool :=
  peer.id == b.peerId && peer.workspaceId == b.message.workspaceId &&
    peer.relayAgentId == b.message.agentId

/-- The store after the batch, which nothing refuses; the mailbox may leave the delivery out. -/
def apply (takesDelivery : Bool) (s : Store) : Store :=
  { s with
    messages := s.messages.insertOrIgnore b.message
    peers := s.peers.update b.isCountedBy Store.countReceived fun _ => rfl
    deliveries := match b.delivery, takesDelivery with
      | some delivery, true => s.deliveries.insertOrIgnore delivery
      | _, _ => s.deliveries
    inbound := (b.inboundRow (toSeconds s.clock)).elim s.inbound s.inbound.insertOrIgnore }

end Batch

namespace Promotion

variable (p : Promotion)

/-- The source message, if it is still there. -/
def source? (s : Store) : Option MessageId :=
  if s.messages.rows.any fun m => m.id == p.legacy.id && m.workspaceId == p.workspaceId &&
      m.agentId == p.fromAgentId && m.createdAt == toSeconds p.legacy.createdAt &&
      s.conversations.contains (p.legacy.conversationId, m.channelId)
  then some p.legacy.id else none

/-- The row of `a2a_inbound`: the response, or nothing but the identity once the source is gone. -/
def inboundRow (s : Store) : InboundRow where
  id := p.inboundId
  workspaceId := p.workspaceId
  messageId := p.source? s
  fingerprint := p.fingerprint
  response := (p.source? s).map fun _ => p.legacy.accepted
  createdAt := toSeconds p.legacy.createdAt

/-- Is the registration that of the caller? -/
def isAuthenticated (s : Store) : Bool :=
  s.isAuthenticated p.workspaceId p.fromAgentId p.peerId p.tokenHash

/-- The store after `INSERT … ON CONFLICT DO NOTHING`. -/
def apply (s : Store) : Store := { s with inbound := s.inbound.insertOrIgnore (p.inboundRow s) }

end Promotion

/-- What is left of a row whose message is deleted: the trigger takes the response, the foreign key
the message. -/
def InboundRow.scrub (r : InboundRow) : InboundRow := { r with messageId := none, response := none }

/-- Was the message of the row deleted? -/
def InboundRow.isOfAny (ids : List MessageId) (r : InboundRow) : Bool :=
  r.messageId.any fun id => decide (id ∈ ids)

/-- `DELETE FROM messages`. -/
def Store.pruneMessages (s : Store) (ids : List MessageId) : Store :=
  { s with
    messages := s.messages.deleteWhere fun m => decide (m.id ∈ ids)
    deliveries := s.deliveries.deleteWhere fun d => decide (d.messageId ∈ ids)
    inbound := s.inbound.update (·.isOfAny ids) InboundRow.scrub fun _ => rfl }

/-- A read, answered unless the storage fails. -/
def read {α : Type} (fault : Option StorageError) (value : α) : Except Failure α :=
  match fault with
  | some cause => .error (.storage cause)
  | none => .ok value

/-- A write that nothing refuses. -/
def commit (fate : Fate) (s s' : Store) : Except Failure Unit × Store :=
  match fate with
  | .commits => (.ok (), s')
  | .fails cause => (.error (.storage cause), s)
  | .loses cause => (.error (.storage cause), s')

/-- A write that may be refused. -/
def attempt (fate : Fate) (refusal : Option Failure) (s s' : Store) :
    Except Failure Unit × Store :=
  match refusal, fate with
  | _, .fails cause => (.error (.storage cause), s)
  | some failure, _ => (.error failure, s)
  | none, fate => commit fate s s'

/-- Execute one statement. -/
def run : (q : Stmt) → q.Answer → Store → Except Failure q.Value × Store
  | .parallel, (first : Bool), s => (.ok first, s)
  | .now, _, s => (.ok s.clock, s)
  | .generateId, (id : String), s => (.ok id, s)
  | .kvGet key, (fault : Option StorageError), s =>
    (if fault.isSome then .error .kv else .ok (s.kv key), s)
  | .kvPut key value, (fate : Fate), s =>
    commit fate s { s with kv := fun k => if k = key then some value else s.kv k }
  | .kvDelete key, (fate : Fate), s =>
    commit fate s { s with kv := fun k => if k = key then none else s.kv k }
  | .inbound id, (fault : Option StorageError), s => (read fault (s.inbound? id), s)
  | .deleteInbound id now, (fate : Fate), s =>
    commit fate s { s with
      inbound := s.inbound.deleteWhere fun r => r.id == id && decide (r.expiresAt ≤ now) }
  | .resolveWorkspaceDeliveryPolicy, (fault : Option StorageError), s => (read fault (), s)
  | .recipient workspaceId fromAgentId name, (fault : Option StorageError), s =>
    (read fault (s.recipient? workspaceId fromAgentId name), s)
  | .sender workspaceId id, (fault : Option StorageError), s =>
    (read fault (s.agents.rows.find? fun a => a.workspaceId == workspaceId && a.id == id), s)
  | .resolveConversation .., (answer : Option StorageError × ConversationId × ChannelId), s =>
    (read answer.1 answer.2, s)
  | .persist batch, (answer : Fate × Bool), s =>
    attempt answer.1 (batch.refusal s) s (batch.apply answer.2 s)
  | .outcomes messageId agentId, (fault : Option StorageError), s =>
    (read fault (s.deliveries.rows.find? fun d => d.messageId == messageId && d.agentId == agentId),
      s)
  | .source id, (fault : Option StorageError), s =>
    (read fault (s.messages.rows.find? (·.id == id)), s)
  | .promote promotion, (fate : Fate), s =>
    attempt fate (if promotion.isAuthenticated s then none else some .registrationChanged) s
      (promotion.apply s)
  | .sweepInbound now, (ids : List InboundId), s =>
    (.ok (), { s with
      inbound := s.inbound.deleteWhere fun r => decide (r.expiresAt ≤ now) && decide (r.id ∈ ids) })
  | .pruneMessages ids, _, s => (.ok (), s.pruneMessages ids)
  | .rotateToken agentId tokenHash, _, s =>
    (.ok (), { s with
      agents := s.agents.update (·.id == agentId) (fun a => { a with tokenHash }) fun _ => rfl })
  | .addPeer peer, _, s => (.ok (), { s with peers := s.peers.insertOrIgnore peer })
  | .removePeer id, _, s => (.ok (), { s with peers := s.peers.deleteWhere (·.id == id) })

/-- What happens of itself: time passes, and entries of the key-value store go. -/
inductive Passing
  | tick (elapsed : Millis)
  | expireKv (key : String)

/-- The machine of inbound messages. -/
def machine : Machine lang Store where
  run := run
  Drift := Passing
  drift
    | .tick elapsed, s => { s with clock := s.clock + elapsed }
    | .expireKv key, s => { s with kv := fun k => if k = key then none else s.kv k }

end Inbound
