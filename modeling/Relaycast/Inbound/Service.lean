import Relaycast.Inbound.Tables

/-!
# Receiving a message

`receiveIdempotently` looks the identity up in the tables, then in the key-value store, and only
where neither answers does it send.  The send looks the identity up again, and its batch claims it:
of two sends that get this far one is refused and starts over, now to find the row of the other.
An acceptance that an earlier release left in the key-value store is promoted to a row instead of
being sent again.
-/

namespace Inbound

open Relational Interleaving Script

/-! ## Requests -/

/-- The cryptography; a digest stands for one text. -/
structure Crypto where
  sha256Hex : List Char ↪ Hash

/-- What a message is received under. -/
structure Identity where
  workspaceId : WorkspaceId
  actorId : AgentId
  scope : String
  key : String
  deriving DecidableEq

/-- What a message says. -/
structure Payload where
  recipient : String
  text : String
  metadata : Option Metadata

/-- A call of `receiveIdempotently`, with the options its operation passes to `sendDm`. -/
structure Request where
  workspaceId : WorkspaceId
  actorId : AgentId
  scope : String
  key : Option String
  status : Option ℕ
  payload : Payload
  peerId : PeerId
  tokenHash : Hash
  kv : Bool

section Names

variable (C : Crypto)

/-- `a2ai_…`, for an identity. -/
def Identity.inboundId (k : Identity) : InboundId :=
  "a2ai_" ++ C.sha256Hex (render (.arr [.str k.workspaceId, .str k.actorId, .str k.scope,
    .str k.key]))

/-- `buildIdempotencyStorageKey`. -/
def Identity.storageKey (k : Identity) : String :=
  "idem:v1:" ++ k.workspaceId ++ ":" ++ k.actorId ++ ":" ++
    String.ofList ((C.sha256Hex k.scope.toList).toList.take 16) ++ ":" ++
    C.sha256Hex k.key.toList

/-- The metadata as a field, which is left out where there is none. -/
def Payload.dataField (p : Payload) : List (String × Json) :=
  p.metadata.toList.map fun fields => ("data", .obj fields)

/-- `sha256Hex(JSON.stringify(data))`. -/
def Payload.inboundFingerprint (p : Payload) : Hash :=
  C.sha256Hex (render (.obj ([("to", .str p.recipient), ("text", .str p.text),
    ("mode", .str "wait")] ++ p.dataField)))

/-- The plain fingerprint of the routes. -/
def Payload.fingerprint (p : Payload) : List Char :=
  render (.obj [("to", .str p.recipient), ("text", .str p.text),
    ("data", p.metadata.elim .null .obj)])

end Names

/-- The identity of a request, if its key is no empty text. -/
def Request.identity (r : Request) : Option Identity :=
  match r.key with
  | some "" | none => none
  | some key => some ⟨r.workspaceId, r.actorId, r.scope, key⟩

/-! ## Errors -/

def reusedKey : Failure :=
  .coded "Idempotency-Key was reused with a different request payload" "idempotency_key_reused" 409

def notRetained : Failure :=
  .coded "Accepted A2A message is no longer retained" "a2a_message_not_retained" 410

def registrationChanged : Failure :=
  .coded "Authenticated A2A registration changed before admission" "a2a_registration_changed" 401

def unverified : Failure :=
  .coded "Legacy A2A acceptance cannot be verified" "a2a_legacy_replay_unavailable" 503

def legacyExpired : Failure :=
  .coded "Legacy A2A replay window expired" "a2a_message_not_retained" 410

def legacyIdentityMissing : Failure :=
  .coded "Legacy A2A identity is missing" "a2a_legacy_replay_unavailable" 503

def agentNotFound (name : String) : Failure :=
  .coded ("Agent \"" ++ name ++ "\" not found") "agent_not_found" 404

def senderNotFound : Failure := .coded "Sender agent not found" "internal_error" 500

def idempotencyUnavailable : Failure :=
  .coded "Idempotency storage is unavailable" "idempotency_unavailable" 503

def inProgress : Failure :=
  .coded "Another request with this Idempotency-Key is still processing" "idempotency_in_progress"
    409

/-! ## Metadata -/

/-- `sanitizeUserMessageMetadata`. -/
def sanitizeUserMessageMetadata (metadata : Metadata) : Metadata :=
  metadata.filter fun field => !"__relaycast_".toList.isPrefixOf field.1.toList

/-- `canonicalUserMessageMetadata`. -/
def canonicalUserMessageMetadata (metadata : Metadata) : List Char :=
  canonicalJson (.obj (sanitizeUserMessageMetadata metadata))

/-- `dmMessageMetadata`, whose own key replaces one of the caller. -/
def dmMessageMetadata (metadata : Option Metadata) : Metadata :=
  (sanitizeUserMessageMetadata (metadata.getD [])).filter (·.1 != "injection_mode") ++
    [("injection_mode", .str "wait")]

/-! ## Sending -/

/-- `SendDmResult`. -/
structure Sent where
  accepted : Accepted
  delivery : Option DeliveryRow
  notificationsDurable : Bool

section Send

variable (C : Crypto) (r : Request)

/-- What a row of the identity, read at `now`, says to the request. -/
def replayRetained (row : InboundRow) : Except Failure Sent :=
  if row.fingerprint ≠ r.payload.inboundFingerprint C then .error reusedKey
  else
    match row.messageId, row.response with
    | some _, some response => .ok ⟨response, none, true⟩
    | _, _ => .error notRetained

/-- The checks of a legacy acceptance against the request; its time is checked apart. -/
def Legacy.verifies (l : Legacy) : Bool :=
  let expectedMetadata := canonicalUserMessageMetadata (dmMessageMetadata r.payload.metadata)
  l.id == l.message.id && l.fromAgentId == r.actorId && l.message.agentId == r.actorId &&
    l.recipient == r.payload.recipient && l.text == r.payload.text &&
    l.message.text == r.payload.text && l.injectionMode == "wait" &&
    l.message.injectionMode == l.injectionMode &&
    canonicalUserMessageMetadata l.metadata == expectedMetadata &&
    canonicalUserMessageMetadata l.message.metadata == expectedMetadata

/-- The source message is the one the acceptance is of. -/
def Legacy.isOf (l : Legacy) (source : MessageRow) : Bool :=
  source.workspaceId == r.workspaceId && source.agentId == r.actorId &&
    toDate source.createdAt == l.createdAt

/-- What the row says that the promotion has found or left. -/
def replayPromoted (row : InboundRow) (now : Millis) : Except Failure Sent :=
  if row.fingerprint ≠ r.payload.inboundFingerprint C then .error reusedKey
  else
    match row.messageId, row.response with
    | some _, some response =>
      if row.expiresAt ≤ now then .error notRetained else .ok ⟨response, none, true⟩
    | _, _ => .error notRetained

/-- `promoteLegacyInbound`. -/
def promoteLegacyInbound (inboundId : InboundId) (parsed : Option Legacy) : Program Sent :=
  match parsed with
  | none => throw unverified
  | some legacy =>
    if r.peerId = "" ∨ r.tokenHash = "" then throw unverified
    else if legacy.verifies r = false then throw unverified
    else do
      let now : Millis ← query .now
      if now < legacy.createdAt then throw unverified
      else do
        let now : Millis ← query .now
        if legacy.createdAt + DAY ≤ now then throw legacyExpired
        else do
          let source : Option MessageRow ← query (.source legacy.id)
          if source.any (fun m => !legacy.isOf r m) then throw unverified
          else do
            let inserted : Except Failure Unit ← Throwing.lift (Prog.ask (L := lang)
              (.promote ⟨inboundId, r.workspaceId, r.actorId, r.peerId, r.tokenHash,
                r.payload.inboundFingerprint C, legacy⟩))
            match inserted with
            | .error .registrationChanged => throw registrationChanged
            | .error e => throw e
            | .ok () => do
              let retained : Option InboundRow ← query (.inbound inboundId)
              match retained with
              | none => throw unverified
              | some row => do
                let now : Millis ← query .now
                Throwing.ofExcept (replayPromoted C r row now)

/-- The batch was refused or lost: the identity may have been admitted by another, or by this very
batch. -/
def afterPersist (inboundId : Option InboundId) (again : Program Sent) (e : Failure) :
    Program Sent :=
  match e, inboundId with
  | .registrationChanged, _ => throw registrationChanged
  | e, none => throw e
  | e, some id => do
    let winner : Option InboundRow ← query (.inbound id)
    match winner with
    | none => throw e
    | some winner =>
      if winner.fingerprint ≠ r.payload.inboundFingerprint C then throw reusedKey else again

/-- `buildDmResult`. -/
def buildDmResult (messageId : MessageId) (createdAt : Seconds) (conversationId : ConversationId)
    (agentName : String) : Accepted where
  conversationId := conversationId
  id := messageId
  fromAgentId := r.actorId
  agentName := agentName
  recipient := r.payload.recipient
  text := r.payload.text
  injectionMode := "wait"
  metadata := sanitizeUserMessageMetadata (dmMessageMetadata r.payload.metadata)
  createdAt := toDate createdAt

/-- What `sendDm` returns once its batch has committed: how the delivery has come out is read. -/
def concludeSend (batch : Batch) : Program Sent :=
  match batch.delivery with
  | none => pure ⟨batch.response, none, true⟩
  | some delivery => do
    let outcome : Option DeliveryRow ← query (.outcomes batch.message.id delivery.agentId)
    pure ⟨batch.response, outcome, true⟩

/-- `persist`, and what follows it. -/
def persistNew (batch : Batch) (again : Program Sent) : Program Sent := do
  let persisted : Except Failure Unit ← Throwing.lift (Prog.ask (L := lang) (.persist batch))
  match persisted with
  | .error e => afterPersist C r batch.inboundId again e
  | .ok _ => concludeSend batch

/-- The batch of a new message. -/
def newBatch (inboundId : Option InboundId) (toAgent fromAgent : AgentRow)
    (conversationId : ConversationId) (channelId : ChannelId) (messageId : MessageId)
    (now : Millis) (deliveryId : DeliveryId) : Batch where
  message := ⟨messageId, r.workspaceId, channelId, r.actorId, r.payload.text, toSeconds now⟩
  peerId := r.peerId
  tokenHash := r.tokenHash
  delivery :=
    if toAgent.id = r.actorId then none else some ⟨"del_" ++ deliveryId, messageId, toAgent.id⟩
  inboundId := inboundId
  fingerprint := r.payload.inboundFingerprint C
  response := buildDmResult r messageId (toSeconds now) conversationId fromAgent.name

/-- The part of `sendDm` that admits a new message. -/
def sendNew (inboundId : Option InboundId) (again : Program Sent) : Program Sent := do
  let _ ← query .resolveWorkspaceDeliveryPolicy
  let recipient : Option AgentRow ←
    query (.recipient r.workspaceId r.actorId r.payload.recipient)
  match recipient with
  | none => throw (agentNotFound r.payload.recipient)
  | some toAgent => do
    let sender : Option AgentRow ← query (.sender r.workspaceId r.actorId)
    match sender with
    | none => throw senderNotFound
    | some fromAgent =>
      if fromAgent.name = "" then throw senderNotFound
      else do
        let (conversationId, channelId) ← query (.resolveConversation r.actorId toAgent.id)
        let messageId : MessageId ← query .generateId
        let now : Millis ← query .now
        let deliveryId : DeliveryId ← query .generateId
        persistNew C r (newBatch C r inboundId toAgent fromAgent conversationId channelId messageId
          now deliveryId) again

/-- What `sendDm` does once no row of the identity answers. -/
def sendFresh (inboundId : Option InboundId) (legacyInbound : Option (Option Legacy))
    (again : Program Sent) : Program Sent :=
  match legacyInbound, inboundId with
  | some _, none => throw legacyIdentityMissing
  | some parsed, some id => promoteLegacyInbound C r id parsed
  | none, inboundId => sendNew C r inboundId again

/-- `sendDm`, with the options of an inbound message; `again` is the send that starts over. -/
def sendOnce (legacyInbound : Option (Option Legacy)) (again : Program Sent) : Program Sent :=
  match r.identity with
  | none => sendFresh C r none legacyInbound again
  | some k => do
    let retained : Option InboundRow ← query (.inbound (k.inboundId C))
    match retained with
    | none => sendFresh C r (some (k.inboundId C)) legacyInbound again
    | some row => do
      let now : Millis ← query .now
      if now < row.expiresAt then Throwing.ofExcept (replayRetained C r row)
      else do
        let now : Millis ← query .now
        let _ ← query (.deleteInbound (k.inboundId C) now)
        sendFresh C r (some (k.inboundId C)) legacyInbound again

/-- `sendDm`, followed until it has started over `depth` times. -/
def sendDm (legacyInbound : Option (Option Legacy)) : ℕ → Program Sent
  | 0 => sendOnce C r legacyInbound (throw .unfinished)
  | depth + 1 => sendOnce C r legacyInbound (sendDm legacyInbound depth)

end Send

/-! ## The key-value store -/

/-- `IdempotentResult`: what the operation returned, or a stored record. -/
inductive Idempotent
  | ran (sent : Sent)
  | replayed (data : StoredData)

section Kv

variable (C : Crypto) (r : Request) (k : Identity)

/-- `${kvKey}:lock`. -/
def lockKey : String := k.storageKey C ++ ":lock"

/-- What the proxy makes of a text: a completion written after admission and a lock say nothing. -/
def proxied (key : String) (raw : Option Raw) : Except Failure (Option Raw) :=
  if key = k.storageKey C then
    match raw with
    | some .malformed => .error .syntaxError
    | some (.completion ..) => .ok none
    | raw => .ok raw
  else if key = lockKey C k then .ok none else .ok raw

/-- `get` of the proxy. -/
def getProxied (key : String) : Program (Option Raw) := do
  let raw : Option Raw ← query (.kvGet key)
  Throwing.ofExcept (proxied C k key raw)

/-- The record and the lock, read together. -/
def readTogether : Prog lang (Except Failure (Option Raw) × Except Failure (Option Raw)) := do
  let recordFirst : Except Failure Bool ← Prog.ask (L := lang) .parallel
  match recordFirst with
  | .ok true => do
    let record ← (getProxied C k (k.storageKey C)).run
    let lock ← (getProxied C k (lockKey C k)).run
    pure (record, lock)
  | _ => do
    let lock ← (getProxied C k (lockKey C k)).run
    let record ← (getProxied C k (k.storageKey C)).run
    pure (record, lock)

/-- The record that answers the request, if there is one; the lock is taken if there is none. -/
def claimKey : Program (Option Raw) := do
  let (record, lock) ← Throwing.lift (readTogether C k)
  match record, lock with
  | .error e, _ => throw e
  | .ok (some raw), _ => pure (some raw)
  | .ok none, .error e => throw e
  | .ok none, .ok (some _) => do
    let concurrent ← getProxied C k (k.storageKey C)
    match concurrent with
    | some raw => pure (some raw)
    | none => throw inProgress
  | .ok none, .ok none => do
    let _ ← query (.kvPut (lockKey C k) Raw.one)
    let recheck ← Throwing.lift (getProxied C k (k.storageKey C)).run
    match recheck with
    | .ok raw => pure raw
    | .error e => do
      let _ ← Throwing.lift (Prog.ask (L := lang) (.kvDelete (lockKey C k)))
      throw e

/-- The stored fingerprints hold that of the request, in digest or in plain. -/
def fingerprintMatches (stored : List String) : Bool :=
  stored.any fun candidate =>
    candidate == C.sha256Hex r.payload.fingerprint ||
      candidate == String.ofList r.payload.fingerprint

/-- `replayOf`, with a fingerprint required. -/
def replayOf : Raw → Except Failure StoredData
  | .malformed => .error .syntaxError
  | .completion _ _ fingerprint =>
    if fingerprintMatches C r [fingerprint] then .ok (.object false none) else .error reusedKey
  | .record _ data fingerprint fingerprints =>
    match fingerprint with
    | none | some "" => .error reusedKey
    | some stored =>
      if fingerprintMatches C r (stored :: fingerprints) then .ok data else .error reusedKey

/-- What the lookups come to: a failure that is no answer to the key is the store's. -/
def failClosed : Failure → Failure
  | .coded message code status =>
    if code = "idempotency_key_reused" ∨ code = "idempotency_in_progress" then
      .coded message code status
    else idempotencyUnavailable
  | _ => idempotencyUnavailable

/-- The record that answers the request, if there is one. -/
def lookup : Program (Option StoredData) := do
  let raw ← claimKey C k
  match raw with
  | none => pure none
  | some raw => do
    let data ← Throwing.ofExcept (replayOf C r raw)
    pure (some data)

/-- `runIdempotent`, with the options of `receiveIdempotently`. -/
def runIdempotent (operation : Program Sent) : Program Idempotent := do
  let found ← Throwing.lift (lookup C r k).run
  match found with
  | .error e => throw (failClosed e)
  | .ok (some data) => pure (.replayed data)
  | .ok none => do
    let outcome ← Throwing.lift operation.run
    match outcome with
    | .error e => do
      let _ ← Throwing.lift (Prog.ask (L := lang) (.kvDelete (lockKey C k)))
      throw e
    | .ok sent => do
      let stored : Except Failure Unit ← Throwing.lift (Prog.ask (L := lang)
        (.kvPut (k.storageKey C) (.completion (r.status.getD 201) sent.accepted.id
          (C.sha256Hex r.payload.fingerprint))))
      match stored with
      | .ok () => pure (.ran sent)
      | .error _ => do
        let _ ← Throwing.lift (Prog.ask (L := lang) (.kvDelete (lockKey C k)))
        pure (.ran sent)

end Kv

/-! ## Receiving -/

section Receive

variable (C : Crypto) (r : Request) (depth : ℕ)

/-- The completion of an earlier release: its response is promoted, and its record goes once the
tables have the identity. -/
def receiveLegacy (k : Identity) (legacy : Option Legacy) : Program Sent := do
  let outcome ← Throwing.lift (sendDm C r (some legacy) depth).run
  let promoted : Option InboundRow ← query (.inbound (k.inboundId C))
  match promoted with
  | none => Throwing.ofExcept outcome
  | some _ => do
    let _ ← Throwing.lift (Prog.ask (L := lang) (.kvDelete (k.storageKey C)))
    Throwing.ofExcept outcome

/-- A completed request: the tables decide. -/
def receiveCompleted (k : Identity) : Program Sent := do
  let winner : Option InboundRow ← query (.inbound (k.inboundId C))
  match winner with
  | none => throw notRetained
  | some _ => sendDm C r none depth

/-- `receiveIdempotently`, as far as the data goes that it returns. -/
def receiveIdempotently : Program Sent :=
  match r.identity with
  | none => sendDm C r none depth
  | some k => do
    let retained : Option InboundRow ← query (.inbound (k.inboundId C))
    match retained, r.kv with
    | some _, _ => sendDm C r none depth
    | none, false => sendDm C r none depth
    | none, true => do
      let result ← runIdempotent C r k (sendDm C r none depth)
      match result with
      | .ran sent => pure sent
      | .replayed .scalar => throw .typeError
      | .replayed (.object true legacy) => receiveLegacy C r depth k legacy
      | .replayed _ => receiveCompleted C r depth k

end Receive

/-! ## The service -/

/-- The calls: receives, the sweep of expired identities, and whoever prunes messages or changes
registrations. -/
inductive Call
  | receive (r : Request) (depth : ℕ)
  | sweepPendingA2aEgress
  | pruneMessages (ids : List MessageId)
  | rotateAgentToken (agentId : AgentId) (tokenHash : Hash)
  | registerA2aAgent (peer : Peer)
  | removeA2aAgent (id : PeerId)

/-- What each call returns. -/
abbrev Call.Result : Call → Type
  | .receive .. => Except Failure Sent
  | _ => Except Failure Unit

/-- `sweepPendingA2aEgress`, as far as the expired identities go. -/
def sweepPendingA2aEgress : Program Unit := do
  let now : Millis ← query .now
  query (.sweepInbound now)

/-- The body of each call. -/
def Call.body (C : Crypto) : (c : Call) → Prog lang c.Result
  | .receive r depth => (receiveIdempotently C r depth).run
  | .sweepPendingA2aEgress => Inbound.sweepPendingA2aEgress.run
  | .pruneMessages ids => (query (.pruneMessages ids)).run
  | .rotateAgentToken agentId tokenHash => (query (.rotateToken agentId tokenHash)).run
  | .registerA2aAgent peer => (query (.addPeer peer)).run
  | .removeA2aAgent id => (query (.removePeer id)).run

/-- Concurrent receives, from the given stores. -/
def service (C : Crypto) (init : Store → Prop) : System lang Store Call Call.Result where
  toMachine := machine
  body := Call.body C
  init := init

end Inbound
