import Relaycast.Interleaving.History
import Relaycast.Relational.Table
import Relaycast.Relational.Timestamp
import Relaycast.Script.Json

/-!
# Session events and their effect on an agent's status

`sessionEvent.ts` records an event and applies a `status.*` event to the agent in two commits.  An
event is recorded by one insert, which allocates the sequence and claims the idempotency key; the
effect is one atomic pair of updates, of the agent and of the event's completion marker.  The agent
update is evaluated first, on the events as they were.

The hash is a parameter.  Only the insert and the pair write; foreign keys, which only refuse
inserts, are left out.
-/

namespace SessionEvent

open Relational Interleaving Script

abbrev WorkspaceId := String
abbrev AgentId := String
abbrev EventId := String

inductive SessionEventType
  | statusChanged | statusIdle | statusActive | statusBlocked | statusWaiting | statusOffline
  | toolCalled | toolCompleted | toolFailed | toolOutput
  | messageReceived | messageSent
  | deliveryAccepted | deliveryDelivered | deliveryDeferred | deliveryFailed
  | actionInvoked | actionCompleted | actionFailed | actionDenied
  | transcriptChunk
  | fileChanged
  | commandStarted | commandCompleted | commandFailed
  | terminalOutput | terminalScreen
  | usageUpdated
  | sessionStarted | sessionReleased | sessionResumed | sessionForked
  | log | error
  deriving DecidableEq

namespace SessionEventType

/-- The text of a type. -/
def text : SessionEventType → String
  | .statusChanged => "status.changed"
  | .statusIdle => "status.idle"
  | .statusActive => "status.active"
  | .statusBlocked => "status.blocked"
  | .statusWaiting => "status.waiting"
  | .statusOffline => "status.offline"
  | .toolCalled => "tool.called"
  | .toolCompleted => "tool.completed"
  | .toolFailed => "tool.failed"
  | .toolOutput => "tool.output"
  | .messageReceived => "message.received"
  | .messageSent => "message.sent"
  | .deliveryAccepted => "delivery.accepted"
  | .deliveryDelivered => "delivery.delivered"
  | .deliveryDeferred => "delivery.deferred"
  | .deliveryFailed => "delivery.failed"
  | .actionInvoked => "action.invoked"
  | .actionCompleted => "action.completed"
  | .actionFailed => "action.failed"
  | .actionDenied => "action.denied"
  | .transcriptChunk => "transcript.chunk"
  | .fileChanged => "file.changed"
  | .commandStarted => "command.started"
  | .commandCompleted => "command.completed"
  | .commandFailed => "command.failed"
  | .terminalOutput => "terminal.output"
  | .terminalScreen => "terminal.screen"
  | .usageUpdated => "usage.updated"
  | .sessionStarted => "session.started"
  | .sessionReleased => "session.released"
  | .sessionResumed => "session.resumed"
  | .sessionForked => "session.forked"
  | .log => "log"
  | .error => "error"

/-- `isStatusEventType`; no type differs from another in case only, so `LIKE 'status.%'` asks the
same. -/
def isStatus (type : SessionEventType) : Bool := "status.".toList.isPrefixOf type.text.toList

/-- `resolveStatusFromEvent`. -/
def resolveStatus : SessionEventType → Option String
  | .statusActive => some "active"
  | .statusIdle => some "idle"
  | .statusBlocked => some "blocked"
  | .statusWaiting => some "waiting"
  | .statusOffline => some "offline"
  | _ => none

end SessionEventType

/-- `RELEASED_AGENT_STATUS`. -/
def releasedAgentStatus : String := "released"

/-- A payload, an object by its type. -/
abbrev Payload := List (String × Json)

/-- A row of `session_events`. -/
structure Row where
  id : EventId
  workspaceId : WorkspaceId
  agentId : AgentId
  type : SessionEventType
  payload : Payload
  idempotencyKeyHash : Option String
  requestDigest : Option String
  sequence : ℕ
  createdAt : Seconds
  statusAppliedAt : Option Seconds
  statusLegacyPending : Bool

namespace Row

variable (r r' : Row)

/-- The status a `status.*` event carries: what the route passes on. -/
def carried : Option String :=
  r.type.resolveStatus <|>
    match r.payload.lookup "status" with
    | some (.str status) => some status
    | _ => none

/-- Is the row an event of the agent? -/
def isOf (workspaceId : WorkspaceId) (agentId : AgentId) : Bool :=
  r.workspaceId == workspaceId && r.agentId == agentId

/-- Is the row the event `eventId` of the agent? -/
def isEvent (workspaceId : WorkspaceId) (agentId : AgentId) (eventId : EventId) : Bool :=
  r.id == eventId && r.isOf workspaceId agentId

/-- Does the row hold the key? -/
def hasKey (workspaceId : WorkspaceId) (agentId : AgentId) (hash : String) : Bool :=
  r.isOf workspaceId agentId && r.idempotencyKeyHash == some hash

end Row

/-- The unique indexes: the id, the sequence of an agent, and the key of an agent where there is
one. -/
instance : Keyed Row where
  Key := EventId × (AgentId × ℕ) × WorkspaceId × Option String
  key r := (r.id, (r.agentId, r.sequence), r.workspaceId, r.idempotencyKeyHash)
  clash k k' := decide (k.1 = k'.1 ∨ k.2.1 = k'.2.1 ∨
    (k.2.2.2.isSome = true ∧ k.2.1.1 = k'.2.1.1 ∧ k.2.2 = k'.2.2))
  clash_comm k k' := by
    rw [decide_eq_decide]
    grind

/-- The columns of `agents` the effect reads and writes. -/
structure Agent where
  workspaceId : WorkspaceId
  id : AgentId
  status : String
  statusUpdatedAt : Option Seconds

instance : Keyed Agent where
  Key := AgentId
  key a := a.id
  clash k k' := k == k'
  clash_comm _ _ := BEq.comm

structure Store where
  agents : Table Agent
  events : Table Row

/-- What a call records. -/
structure EventData where
  type : SessionEventType
  payload : Payload

/-- `toPublicEvent`. -/
structure PublicEvent where
  id : EventId
  agentId : AgentId
  type : SessionEventType
  payload : Payload
  sequence : ℕ
  createdAt : Millis

def toPublicEvent (r : Row) (agentId : AgentId) : PublicEvent :=
  ⟨r.id, agentId, r.type, r.payload, r.sequence, toDate r.createdAt⟩

/-! ## Statements -/

/-- The values of an insert; the sequence and the times are the database's. -/
structure NewEvent where
  id : EventId
  workspaceId : WorkspaceId
  agentId : AgentId
  data : EventData
  idempotencyKeyHash : Option String
  requestDigest : Option String

/-- What `applyStatusEventEffect` is called with. -/
structure Effect where
  workspaceId : WorkspaceId
  agentId : AgentId
  eventId : EventId
  status : String

/-- The statements of the area. -/
inductive Stmt
  /-- `generateId`. -/
  | generateId
  /-- The insert; without a row if a unique index forbids it. -/
  | insert (event : NewEvent)
  | readByKey (workspaceId : WorkspaceId) (agentId : AgentId) (hash : String)
  /-- The atomic pair of updates: whether each of them has hit a row. -/
  | apply (effect : Effect)

abbrev Stmt.Answer : Stmt → Type
  | .generateId => EventId
  | .insert _ | .apply _ => Seconds
  | .readByKey .. => Unit

abbrev Stmt.Reply : Stmt → Type
  | .generateId => EventId
  | .insert _ | .readByKey .. => Option Row
  | .apply _ => Bool × Bool

/-- The language of session events. -/
abbrev lang : Language where
  Stmt := Stmt
  Answer := Stmt.Answer
  Reply := Stmt.Reply

/-- Issue one statement and return its reply. -/
abbrev await (q : Stmt) : Prog lang q.Reply := Prog.ask (L := lang) q

namespace Store

variable (s : Store)

/-- `COALESCE(MAX(sequence), 0) + 1`. -/
def nextSequence (agentId : AgentId) : ℕ :=
  ((s.events.select fun r => r.agentId == agentId).map (·.sequence)).foldr max 0 + 1

/-- The row an insert stores. -/
def newRow (event : NewEvent) (now : Seconds) : Row where
  id := event.id
  workspaceId := event.workspaceId
  agentId := event.agentId
  type := event.data.type
  payload := event.data.payload
  idempotencyKeyHash := event.idempotencyKeyHash
  requestDigest := event.requestDigest
  sequence := s.nextSequence event.agentId
  createdAt := now
  statusAppliedAt := none
  statusLegacyPending := false

/-- `SELECT sequence` of the event an effect is about. -/
def currentSequence (e : Effect) : Option ℕ :=
  ((s.events.select fun r => r.isEvent e.workspaceId e.agentId e.eventId).head?).map (·.sequence)

/-- `EXISTS` a newer status event of the agent. -/
def hasNewer (e : Effect) : Bool :=
  s.events.rows.any fun newer => newer.isOf e.workspaceId e.agentId && newer.type.isStatus &&
    (s.currentSequence e).any fun sequence => decide (sequence < newer.sequence)

/-- The event an effect is about, if it is a legacy one. -/
def legacyEvent (e : Effect) : Option Row :=
  (s.events.select fun r => r.isEvent e.workspaceId e.agentId e.eventId &&
    r.statusLegacyPending).head?

/-- Does the effect claim the event? -/
def claims (e : Effect) (r : Row) : Bool :=
  r.isEvent e.workspaceId e.agentId e.eventId && r.statusAppliedAt.isNone

/-- Does the effect change the agent? -/
def mutates (e : Effect) (a : Agent) : Bool :=
  a.workspaceId == e.workspaceId && a.id == e.agentId && a.status != releasedAgentStatus &&
    s.events.rows.any (claims e) && !s.hasNewer e &&
    (s.legacyEvent e).all fun legacy => a.status != e.status &&
      a.statusUpdatedAt.any fun updated => decide (updated < legacy.createdAt)

end Store

/-- What the update writes to the agent; the trigger records when. -/
def Agent.withStatus (status : String) (now : Seconds) (a : Agent) : Agent :=
  { a with
    status := status
    statusUpdatedAt := some now }

/-- What the update writes to the event. -/
def Row.applied (now : Seconds) (r : Row) : Row := { r with statusAppliedAt := some now }

/-- Execute one statement. -/
def run : (q : Stmt) → q.Answer → Store → q.Reply × Store
  | .generateId, id, s => (id, s)
  | .insert event, now, s =>
    let row := s.newRow event now
    (if s.events.conflicts row then none else some row,
      { s with events := s.events.insertOrIgnore row })
  | .readByKey workspaceId agentId hash, _, s =>
    ((s.events.select fun r => r.hasKey workspaceId agentId hash).head?, s)
  | .apply e, now, s =>
    ((s.agents.rows.any (s.mutates e), s.events.rows.any (Store.claims e)),
      { agents := s.agents.update (s.mutates e) (Agent.withStatus e.status now) fun _ => rfl
        events := s.events.update (Store.claims e) (Row.applied now) fun _ => rfl })

/-- The machine of session events. -/
def machine : Machine lang Store where
  run := run
  Drift := Empty
  drift d _ := d.elim

/-! ## The functions -/

/-- `codedError`, and what the database throws. -/
inductive RecordError
  | idempotencyUnavailable
  | idempotencyKeyReused
  | uniqueConstraint
  deriving DecidableEq

/-- What a recording returns. -/
structure Recorded where
  event : PublicEvent
  replayed : Bool
  pendingStatusApplication : Bool

/-- `recordSessionEvent`. -/
def recordSessionEvent (workspaceId : WorkspaceId) (agentId : AgentId) (data : EventData) :
    Prog lang (Except RecordError Recorded) := do
  let id : EventId ← await .generateId
  let created : Option Row ← await (.insert ⟨id, workspaceId, agentId, data, none, none⟩)
  match created with
  | none => return .error .uniqueConstraint
  | some event => return .ok ⟨toPublicEvent event agentId, false, data.type.isStatus⟩

/-- The hash of a key. -/
def keyHash (sha256Hex : String → String) (key : String) : String :=
  sha256Hex ("session-event-key-v1\x00" ++ key)

/-- The digest of a request. -/
def digest (sha256Hex : String → String) (data : EventData) : String :=
  sha256Hex ("session-event-payload-v1\x00" ++
    String.ofList (canonicalJson (.obj [("type", .str data.type.text), ("payload", .obj data.payload)])))

/-- `recordSessionEventWithIdempotency`. -/
def recordSessionEventWithIdempotency (sha256Hex : String → String) (workspaceId : WorkspaceId)
    (agentId : AgentId) (data : EventData) (idempotencyKey : String) :
    Prog lang (Except RecordError Recorded) := do
  let idempotencyKeyHash := keyHash sha256Hex idempotencyKey
  let requestDigest := digest sha256Hex data
  let id : EventId ← await .generateId
  let created : Option Row ← await
    (.insert ⟨id, workspaceId, agentId, data, some idempotencyKeyHash, some requestDigest⟩)
  match created with
  | some event => return .ok ⟨toPublicEvent event agentId, false, data.type.isStatus⟩
  | none => do
    let existing : Option Row ← await (.readByKey workspaceId agentId idempotencyKeyHash)
    match existing with
    | none => return .error .idempotencyUnavailable
    | some existing =>
      if existing.requestDigest ≠ some requestDigest then return .error .idempotencyKeyReused
      else
        return .ok ⟨toPublicEvent existing agentId, true,
          existing.type.isStatus && existing.statusAppliedAt.isNone⟩

/-- `StatusEventEffectResult`. -/
structure EffectResult where
  claimed : Bool
  mutated : Bool

/-- `applyStatusEventEffect`. -/
def applyStatusEventEffect (effect : Effect) : Prog lang EffectResult := do
  let (mutated, claimed) : Bool × Bool ← await (.apply effect)
  return ⟨claimed, claimed && mutated⟩

/-- The calls. -/
inductive Call
  | recordSessionEvent (workspaceId : WorkspaceId) (agentId : AgentId) (data : EventData)
  | recordSessionEventWithIdempotency (workspaceId : WorkspaceId) (agentId : AgentId)
      (data : EventData) (idempotencyKey : String)
  | applyStatusEventEffect (effect : Effect)

abbrev Call.Result : Call → Type
  | .recordSessionEvent .. | .recordSessionEventWithIdempotency .. => Except RecordError Recorded
  | .applyStatusEventEffect _ => EffectResult

/-- What a call runs. -/
def Call.body (sha256Hex : String → String) : (c : Call) → Prog lang c.Result
  | .recordSessionEvent workspaceId agentId data =>
    SessionEvent.recordSessionEvent workspaceId agentId data
  | .recordSessionEventWithIdempotency workspaceId agentId data key =>
    SessionEvent.recordSessionEventWithIdempotency sha256Hex workspaceId agentId data key
  | .applyStatusEventEffect effect => SessionEvent.applyStatusEventEffect effect

/-- The calls on the store as the migration that adds the markers leaves it: no event is marked
applied. -/
def service (sha256Hex : String → String) : System lang Store Call Call.Result where
  toMachine := machine
  body := Call.body sha256Hex
  init s := ∀ r ∈ s.events, r.statusAppliedAt = none

/-- Every interleaving and every crash, where effects are applied for status events that are not
legacy, with the status the event carries. -/
def statusEvents : Regime lang Store Call where
  calls _ := True
  permits w _ q :=
    match q with
    | .apply e => ∀ r ∈ w.store.events, r.isEvent e.workspaceId e.agentId e.eventId = true →
      r.type.isStatus = true ∧ r.statusLegacyPending = false ∧ r.carried = some e.status
    | _ => True
  crashes := True

end SessionEvent
