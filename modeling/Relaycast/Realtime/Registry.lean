import Mathlib.Data.Finset.Basic
import Mathlib.Data.List.AList
import Mathlib.Data.Nat.Notation

/-!
# The node connection registry

`InProcessRealtime` keeps the control sockets of the nodes in four indexes: the connections by
their id, the ids of each node's connections, the connection each provider of a node is bound to,
and the connections a reconnect has superseded.  Each call runs up to its first `await` in one go,
and what it does to the indexes it does before that, so a call is a function of the registry.

A `Map` is an association list with distinct keys.  The order of its entries is left open: of what
is modelled here nothing reads it.  Time is the reading of `Date.now()` handed to a call.

The handle of a connection keeps the connection's object after the map has dropped it, and a frame
that is still queued reads it there.  `departed` holds these objects, as the map last had them.
What is sent to a socket, and the closes asked of it, are recorded in `effects`.
-/

namespace Realtime

/-- A workspace id is a number in text; of this only the absence of a colon matters. -/
structure WorkspaceId where
  text : String
  noColon : ':' ∉ text.toList
  deriving DecidableEq

abbrev NodeId := String
abbrev ProviderName := String
abbrev InstanceId := String
abbrev AgentId := String
abbrev ActionName := String
abbrev Socket := String
abbrev NodeKey := String
abbrev QueueKey := String

/-- The id of a connection: `nconn_N`, or the id that a host gives its socket.  A host's ids are
not empty and do not look like `nconn_N`. -/
inductive ConnectionId
  | nconn (n : ℕ)
  | socket (id : String)
  deriving DecidableEq

/-- `deliveryReadyAgentIds?: Set<string> | null`. -/
inductive DeliveryReady
  | undefined
  | null
  | set (agentIds : Finset AgentId)
  deriving DecidableEq

/-- `isProviderAgentDeliveryReady` of one connection. -/
def DeliveryReady.has (agentId : AgentId) : DeliveryReady → Bool
  | .undefined => false
  | .null => true
  | .set agentIds => agentId ∈ agentIds

/-- The modes a provider can ask for. -/
inductive DeliveryMode
  | immediate
  | agentScoped
  deriving DecidableEq

/-- `NodeConn`. -/
structure NodeConn where
  socket : Socket
  workspaceId : WorkspaceId
  nodeId : NodeId
  providerName : Option ProviderName := none
  instanceId : Option InstanceId := none
  deliveryReadyAgentIds : DeliveryReady := .undefined
  callerAwareActions : Option (Finset ActionName) := none
  lastSeen : ℕ
  attaches : ℕ := 0
  superseded : Bool := false
  supersededProviderName : Option ProviderName := none
  deriving DecidableEq

/-- A frame for a broker, as far as the registry looks into it. -/
inductive Message
  | deliver (agentId : AgentId) (body : String)
  | actionInvoke (invocationId : String) (body : String)
  | other (body : String)
  deriving DecidableEq

/-- The dedup key of a queued frame. -/
def Message.invocation : Message → Option String
  | .actionInvoke invocationId _ => some invocationId
  | _ => none

/-- What the registry asks of a socket. -/
inductive SocketEffect
  | sent (socket : Socket) (message : Message)
  | closed (socket : Socket) (code : ℕ) (reason : String)
  deriving DecidableEq

/-- The node part of `InProcessRealtime`. -/
structure Registry where
  nodeConnections : AList fun _ : ConnectionId => NodeConn
  nodeConnIndex : AList fun _ : NodeKey => List ConnectionId
  providerIndex : AList fun _ : NodeKey => AList fun _ : ProviderName => ConnectionId
  supersededConnections : Finset ConnectionId
  nodeQueues : AList fun _ : QueueKey => List Message
  connectionSeq : ℕ
  departed : AList fun _ : ConnectionId => NodeConn
  effects : List SocketEffect

def DEFAULT_PROVIDER_NAME : ProviderName := "default"

def nodeKey (workspaceId : WorkspaceId) (nodeId : NodeId) : NodeKey :=
  workspaceId.text ++ ":" ++ nodeId

def providerQueueKey (key : NodeKey) (providerName : ProviderName) : QueueKey :=
  key ++ "::" ++ providerName

lemma WorkspaceId.takeWhile_text (w : WorkspaceId) (rest : List Char) :
    (w.text.toList ++ ':' :: rest).takeWhile (· ≠ ':') = w.text.toList := by
  rw [List.takeWhile_append_of_pos]
  · simp
  · intro c hc
    have hne : c ≠ ':' := fun h => w.noColon (h ▸ hc)
    simpa using hne

/-- Two nodes have the same key only if they are the same. -/
lemma nodeKey_inj {w w' : WorkspaceId} {n n' : NodeId} (h : nodeKey w n = nodeKey w' n') :
    w = w' ∧ n = n' := by
  have hlist : w.text.toList ++ ':' :: n.toList = w'.text.toList ++ ':' :: n'.toList := by
    simpa [nodeKey] using congrArg String.toList h
  have htext : w.text.toList = w'.text.toList := by
    rw [← w.takeWhile_text n.toList, hlist, w'.takeWhile_text]
  rw [htext] at hlist
  have hnode : n = n' := String.toList_inj.mp (List.cons.inj (List.append_cancel_left hlist)).2
  refine ⟨?_, hnode⟩
  obtain ⟨text, hno⟩ := w
  obtain ⟨text', hno'⟩ := w'
  obtain rfl : text = text' := String.toList_inj.mp htext
  rfl

def NodeConn.key (conn : NodeConn) : NodeKey := nodeKey conn.workspaceId conn.nodeId

/-! ## A connection -/

/-- `providerNameChanged`. -/
def NodeConn.renamedBy (conn : NodeConn) (providerName : ProviderName) : Bool :=
  conn.providerName.any (· ≠ providerName)

/-- The connection under a new registration.  The ready identities go with a change of the
provider or of its instance. -/
def NodeConn.register (conn : NodeConn) (providerName : ProviderName)
    (instanceId : InstanceId) (callerAwareActions : Finset ActionName) (now : ℕ) : NodeConn :=
  { conn with
    deliveryReadyAgentIds :=
      if conn.renamedBy providerName || conn.instanceId.any (· ≠ instanceId) then .undefined
      else conn.deliveryReadyAgentIds
    providerName := some providerName
    attaches := conn.attaches + 1
    instanceId := some instanceId
    callerAwareActions := some callerAwareActions
    lastSeen := now }

/-- The connection after `detachProvider`. -/
def NodeConn.detached (conn : NodeConn) : NodeConn :=
  { conn with
    providerName := none
    deliveryReadyAgentIds := .undefined
    callerAwareActions := none }

/-! ## Maps and sets -/

/-- `add` of a set in insertion order. -/
def setAdd {α : Type} [DecidableEq α] (xs : List α) (x : α) : List α :=
  if x ∈ xs then xs else xs ++ [x]

@[simp] lemma mem_setAdd {α : Type} [DecidableEq α] {xs : List α} {x y : α} :
    y ∈ setAdd xs x ↔ y ∈ xs ∨ y = x := by
  unfold setAdd
  split
  · next hmem =>
    constructor
    · exact .inl
    · rintro (h | rfl)
      · exact h
      · exact hmem
  · simp

section
variable {κ ν : Type} [DecidableEq κ] {m : AList fun _ : κ => ν} {k k' : κ} {v : ν}

lemma lookup_insert_eq_if :
    (m.insert k v).lookup k' = if k' = k then some v else m.lookup k' := by
  split
  · next h => rw [h, AList.lookup_insert]
  · next h => rw [AList.lookup_insert_ne h]

lemma lookup_erase_eq_if :
    (m.erase k).lookup k' = if k' = k then none else m.lookup k' := by
  split
  · next h => rw [h, AList.lookup_erase]
  · next h => rw [AList.lookup_erase_ne h]

/-- The lookup in a map that has lost all its entries. -/
lemma lookup_of_keys_eq_nil (h : m.keys = []) : m.lookup k = none := by
  rw [AList.lookup_eq_none, AList.mem_keys, h]
  simp

end

namespace Registry

variable (s : Registry)

/-- A registry at start-up. -/
def empty : Registry where
  nodeConnections := ∅
  nodeConnIndex := ∅
  providerIndex := ∅
  supersededConnections := ∅
  nodeQueues := ∅
  connectionSeq := 0
  departed := ∅
  effects := []

/-! ## What callers read -/

def providerConnId (key : NodeKey) (providerName : ProviderName) : Option ConnectionId :=
  (s.providerIndex.lookup key).bind (AList.lookup providerName)

def providerConnection (key : NodeKey) (providerName : ProviderName) : Option NodeConn :=
  (s.providerConnId key providerName).bind fun id => s.nodeConnections.lookup id

/-- The ids under a node in `nodeConnIndex`. -/
def conns (key : NodeKey) : List ConnectionId := (s.nodeConnIndex.lookup key).getD []

/-- The socket of a provider.  The sole connection of a node stands in for its `default` provider
until it registers. -/
def providerSocket (key : NodeKey) (providerName : ProviderName) : Option Socket :=
  match s.providerConnId key providerName with
  | some id => (s.nodeConnections.lookup id).map (·.socket)
  | none =>
    if providerName ≠ DEFAULT_PROVIDER_NAME then none
    else
      match s.conns key with
      | [only] =>
        (s.nodeConnections.lookup only).bind fun conn =>
          if conn.providerName.getD "" = "" then some conn.socket else none
      | _ => none

def isNodeConnected (workspaceId : WorkspaceId) (nodeId : NodeId) : Bool :=
  !(s.conns (nodeKey workspaceId nodeId)).isEmpty

def isProviderAttached (workspaceId : WorkspaceId) (nodeId : NodeId)
    (providerName : ProviderName) : Bool :=
  (s.providerConnection (nodeKey workspaceId nodeId) providerName).isSome

def providerNameForConnection (connectionId : ConnectionId) : Option ProviderName :=
  (s.nodeConnections.lookup connectionId).bind (·.providerName)

def isConnectionSuperseded (connectionId : ConnectionId) : Bool :=
  connectionId ∈ s.supersededConnections

def isProviderAgentDeliveryReady (workspaceId : WorkspaceId) (nodeId : NodeId)
    (providerName : ProviderName) (agentId : AgentId) : Bool :=
  (s.providerConnection (nodeKey workspaceId nodeId) providerName).any
    (·.deliveryReadyAgentIds.has agentId)

/-- The connection that a call about a provider is for: the one bound now, unless the call names
another. -/
def currentConnId (workspaceId : WorkspaceId) (nodeId : NodeId) (providerName : ProviderName)
    (connectionId : Option ConnectionId) : Option ConnectionId :=
  (s.providerConnId (nodeKey workspaceId nodeId) providerName).filter fun current =>
    connectionId.all (· = current)

/-! ## What callers do -/

/-- `conns.delete(connectionId)`, and the node's entry with the last of them. -/
def unindex (key : NodeKey) (connectionId : ConnectionId) :
    AList fun _ : NodeKey => List ConnectionId :=
  match s.nodeConnIndex.lookup key with
  | none => s.nodeConnIndex
  | some conns =>
    let conns := conns.filter (· ≠ connectionId)
    if conns = [] then s.nodeConnIndex.erase key else s.nodeConnIndex.insert key conns

/-- `providers.delete(providerName)`, and the node's entry with the last of them. -/
def unbind (key : NodeKey) (providerName : ProviderName) :
    AList fun _ : NodeKey => AList fun _ : ProviderName => ConnectionId :=
  match s.providerIndex.lookup key with
  | none => s.providerIndex
  | some providers =>
    let providers := providers.erase providerName
    if providers.keys = [] then s.providerIndex.erase key else s.providerIndex.insert key providers

/-- `options.connectionId`, or the next `nconn_N`. -/
def newConnectionId : Option String → ConnectionId
  | some id => .socket id
  | none => .nconn (s.connectionSeq + 1)

/-- `attachNodeSocket`, up to the drain it starts in the background. -/
def attachNodeSocket (workspaceId : WorkspaceId) (nodeId : NodeId) (socket : Socket)
    (connectionId : Option String) (now : ℕ) : Registry :=
  let id := s.newConnectionId connectionId
  let key := nodeKey workspaceId nodeId
  { s with
    nodeConnections := s.nodeConnections.insert id
      { socket := socket, workspaceId := workspaceId, nodeId := nodeId, lastSeen := now }
    nodeConnIndex := s.nodeConnIndex.insert key (setAdd (s.conns key) id)
    connectionSeq := s.connectionSeq + if connectionId = none then 1 else 0
    departed := s.departed.erase id }

/-- The part of `attachProvider` that takes a provider from the connection it was bound to. -/
def supersede (key : NodeKey) (existing : ConnectionId) : Registry :=
  { s with
    nodeConnections := s.nodeConnections.erase existing
    supersededConnections := insert existing s.supersededConnections
    nodeConnIndex := s.unindex key existing
    departed := match s.nodeConnections.lookup existing with
      | none => s.departed
      | some superseded => s.departed.insert existing
          { superseded with
            superseded := true
            supersededProviderName := superseded.providerName
            providerName := none }
    effects := match s.nodeConnections.lookup existing with
      | none => s.effects
      | some superseded => s.effects ++ [.closed superseded.socket 1000 "superseded"] }

/-- The first part of `attachProvider`: a connection that has the provider loses it. -/
def takeProvider (key : NodeKey) (providerName : ProviderName) (connectionId : ConnectionId) :
    Registry :=
  match s.providerConnId key providerName with
  | none => s
  | some existing => if existing = connectionId then s else s.supersede key existing

/-- The node's providers once the connection has the name.  A rename would otherwise leave the old
name's entry pointing at the socket. -/
def bindProvider (key : NodeKey) (conn : NodeConn) (providerName : ProviderName)
    (connectionId : ConnectionId) : AList fun _ : ProviderName => ConnectionId :=
  let providers := (s.providerIndex.lookup key).getD ∅
  match conn.providerName with
  | none => providers.insert providerName connectionId
  | some previous =>
    if conn.renamedBy providerName && providers.lookup previous = some connectionId then
      (providers.erase previous).insert providerName connectionId
    else providers.insert providerName connectionId

/-- `attachProvider`. -/
def attachProvider (workspaceId : WorkspaceId) (nodeId : NodeId) (providerName : ProviderName)
    (instanceId : InstanceId) (connectionId : ConnectionId)
    (callerAwareActions : Finset ActionName) (now : ℕ) : Registry :=
  match s.nodeConnections.lookup connectionId with
  | none => s
  | some conn =>
    let key := nodeKey workspaceId nodeId
    let s' := s.takeProvider key providerName connectionId
    { s' with
      nodeConnections := s'.nodeConnections.insert connectionId
        (conn.register providerName instanceId callerAwareActions now)
      providerIndex := s'.providerIndex.insert key
        (s'.bindProvider key conn providerName connectionId) }

/-- `setProviderDeliveryReadiness`. -/
def setProviderDeliveryReadiness (workspaceId : WorkspaceId) (nodeId : NodeId)
    (providerName : ProviderName) (connectionId : Option ConnectionId) (mode : DeliveryMode) :
    Registry :=
  match s.currentConnId workspaceId nodeId providerName connectionId with
  | none => s
  | some current =>
    match s.nodeConnections.lookup current with
    | none => s
    | some conn =>
      if conn.workspaceId = workspaceId ∧ conn.nodeId = nodeId ∧
          conn.providerName = some providerName then
        { s with
          nodeConnections := s.nodeConnections.insert current
            { conn with
              deliveryReadyAgentIds := match mode, conn.deliveryReadyAgentIds with
                | .immediate, _ => .null
                | .agentScoped, .set agentIds => .set agentIds
                | .agentScoped, _ => .set ∅ } }
      else s

/-- `providerDeliveryReadinessMode`. -/
def providerDeliveryReadinessMode (workspaceId : WorkspaceId) (nodeId : NodeId)
    (providerName : ProviderName) (connectionId : Option ConnectionId) : Option DeliveryMode :=
  (s.currentConnId workspaceId nodeId providerName connectionId).bind fun current =>
    (s.nodeConnections.lookup current).bind fun conn =>
      if conn.workspaceId = workspaceId ∧ conn.nodeId = nodeId ∧
          conn.providerName = some providerName then
        match conn.deliveryReadyAgentIds with
        | .undefined => none
        | .null => some .immediate
        | .set _ => some .agentScoped
      else none

/-- `markProviderAgentsDeliveryReady`. -/
def markProviderAgentsDeliveryReady (workspaceId : WorkspaceId) (nodeId : NodeId)
    (providerName : ProviderName) (connectionId : Option ConnectionId)
    (agentIds : Finset AgentId) : Registry :=
  match s.currentConnId workspaceId nodeId providerName connectionId with
  | none => s
  | some current =>
    match s.nodeConnections.lookup current with
    | none => s
    | some conn =>
      match conn.deliveryReadyAgentIds with
      | .set ready =>
        { s with
          nodeConnections := s.nodeConnections.insert current
            { conn with deliveryReadyAgentIds := .set (ready ∪ agentIds) } }
      | _ => s

/-- `detachProvider`. -/
def detachProvider (workspaceId : WorkspaceId) (nodeId : NodeId) (providerName : ProviderName) :
    Registry :=
  let key := nodeKey workspaceId nodeId
  { s with
    providerIndex := s.unbind key providerName
    nodeConnections := match s.providerConnId key providerName with
      | none => s.nodeConnections
      | some connId =>
        match s.nodeConnections.lookup connId with
        | none => s.nodeConnections
        | some conn => s.nodeConnections.insert connId conn.detached
    nodeQueues := s.nodeQueues.erase (providerQueueKey key providerName) }

/-- The end of `sendToProviderUnchecked`: an `action.invoke` that no socket took waits for one. -/
def queueFrame (key : NodeKey) (providerName : ProviderName) (message : Message) :
    Registry × Bool :=
  match message.invocation with
  | none => (s, false)
  | some invocationId =>
    let queueKey := providerQueueKey key providerName
    let queue := (s.nodeQueues.lookup queueKey).getD []
    let queue :=
      if queue.any (·.invocation = some invocationId) then queue else queue ++ [message]
    ({ s with nodeQueues := s.nodeQueues.insert queueKey (queue.drop (queue.length - 100)) }, true)

/-- A durable frame for an agent that is not ready. -/
def gates (workspaceId : WorkspaceId) (nodeId : NodeId) (providerName : ProviderName) :
    Message → Bool
  | .deliver agentId _ => !s.isProviderAgentDeliveryReady workspaceId nodeId providerName agentId
  | _ => false

/-- `sendToProviderUnchecked`, for a socket that takes the frame or throws. -/
def sendToProvider (workspaceId : WorkspaceId) (nodeId : NodeId) (providerName : ProviderName)
    (message : Message) (accepts : Bool) : Registry × Bool :=
  let key := nodeKey workspaceId nodeId
  if s.gates workspaceId nodeId providerName message then (s, false)
  else
    match s.providerSocket key providerName with
    | none => s.queueFrame key providerName message
    | some socket =>
      if accepts then ({ s with effects := s.effects ++ [.sent socket message] }, true)
      else (s.detachProvider workspaceId nodeId providerName).queueFrame key providerName message

/-- One turn of the loop of `disconnectNode`. -/
def forceDisconnect (s : Registry) (connId : ConnectionId) : Registry :=
  match s.nodeConnections.lookup connId with
  | none => s
  | some conn =>
    { s with
      nodeConnections := s.nodeConnections.erase connId
      departed := s.departed.insert connId conn
      effects := s.effects ++ [.closed conn.socket 1000 "force-disconnect"] }

/-- `connIds` of `disconnectNode`: the connections bound in the node's index, and those that never
registered. -/
def connIds (workspaceId : WorkspaceId) (nodeId : NodeId) : List ConnectionId :=
  let bound := ((s.providerIndex.lookup (nodeKey workspaceId nodeId)).getD ∅).entries.map (·.2)
  let own := (s.nodeConnections.entries.filter fun entry =>
    entry.2.nodeId = nodeId ∧ entry.2.workspaceId = workspaceId).map (·.1)
  (bound ++ own).dedup

/-- `disconnectNode`. -/
def disconnectNode (workspaceId : WorkspaceId) (nodeId : NodeId) : Registry :=
  let key := nodeKey workspaceId nodeId
  let s' := (s.connIds workspaceId nodeId).foldl forceDisconnect s
  { s' with
    providerIndex := s'.providerIndex.erase key
    nodeConnIndex := s'.nodeConnIndex.erase key }

/-- `onNodeConnectionClose`, up to the teardown of the rows. -/
def onNodeConnectionClose (connectionId : ConnectionId) : Registry :=
  let s := { s with supersededConnections := s.supersededConnections.erase connectionId }
  match s.nodeConnections.lookup connectionId with
  | none => s
  | some conn =>
    let s' := { s with
      nodeConnections := s.nodeConnections.erase connectionId
      nodeConnIndex := s.unindex conn.key connectionId
      departed := s.departed.insert connectionId conn }
    -- the provider is this connection's only while the index still names it
    match conn.providerName with
    | none => s'
    | some providerName =>
      if s.providerConnId conn.key providerName = some connectionId then
        { s' with
          providerIndex := s'.unbind conn.key providerName
          nodeQueues := s'.nodeQueues.erase (providerQueueKey conn.key providerName) }
      else s'

/-- The object of a connection, which its handle keeps. -/
def handleConn (connectionId : ConnectionId) : Option NodeConn :=
  (s.nodeConnections.lookup connectionId).or (s.departed.lookup connectionId)

/-- A `node.deregister` frame of a connection, once it has the node's lock: refused on a
connection that has been superseded.  The provider was resolved when the frame arrived. -/
def deregisterFrame (connectionId : ConnectionId) (providerName : ProviderName) : Registry :=
  match s.handleConn connectionId with
  | none => s
  | some conn =>
    if conn.superseded || s.isConnectionSuperseded connectionId then s
    else s.detachProvider conn.workspaceId conn.nodeId providerName

end Registry

end Realtime
