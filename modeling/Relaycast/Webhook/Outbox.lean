import Relaycast.Interleaving.Run
import Relaycast.Relational.Keyset
import Relaycast.Relational.Table
import Relaycast.Relational.Timestamp

/-!
# The webhook outbox

An event that somebody may have subscribed to is stored in `pending_events`.  Workers claim due
events for a lease, and for each claimed event make sure that there is one row of
`webhook_deliveries` for every subscription that matches.  A delivery is claimed in turn, sent, and
settled, and the settlement names the claim it belongs to.  Failed and dead-lettered deliveries can
be replayed.

Rows of the outbox refer to each other, and deleting one deletes what refers to it.
-/

namespace Webhook

open Relational Interleaving

abbrev WorkspaceId := String

/-! ## Tables -/

/-- The filter of a subscription. -/
structure Filter where
  channel : Option String
  mentions : Option String
  deriving DecidableEq

inductive SignatureScheme
  | legacy
  | standardWebhooks
  deriving DecidableEq

/-- A row of `event_subscriptions`. -/
structure Subscription where
  id : String
  workspaceId : WorkspaceId
  events : List String
  filter : Option Filter
  url : String
  headers : Option (List (String × String))
  secret : Option String
  signatureScheme : SignatureScheme
  isActive : Bool
  deriving DecidableEq

instance : Keyed Subscription where
  Key := String
  key r := r.id
  clash k k' := k == k'
  clash_comm := text_clash_comm

/-- The data of an event: its JSON text, and the fields a filter reads. -/
structure Payload where
  json : String
  channelName : Option String
  channel : Option String
  text : Option String
  deriving DecidableEq

inductive EventStatus
  | pending
  | completed
  | failed
  deriving DecidableEq

/-- A row of `pending_events`. -/
structure PendingEvent where
  id : String
  workspaceId : WorkspaceId
  eventType : String
  payload : Payload
  status : EventStatus
  attempts : ℕ
  maxAttempts : ℕ
  webhookInitialized : Bool
  lastError : Option String
  createdAt : Seconds
  processAfter : Seconds
  completedAt : Option Seconds
  deriving DecidableEq

instance : Keyed PendingEvent where
  Key := String
  key r := r.id
  clash k k' := k == k'
  clash_comm := text_clash_comm

/-- `WebhookDeliveryStatus`. -/
inductive DeliveryStatus
  | pending
  | succeeded
  | failed
  | deadLetter
  deriving DecidableEq

/-- A row of `webhook_deliveries`. -/
structure WebhookDelivery where
  id : String
  eventId : String
  subscriptionId : String
  status : DeliveryStatus
  attempts : ℕ
  nextAttemptAt : Seconds
  lastError : Option String
  lastStatus : Option ℕ
  createdAt : Seconds
  completedAt : Option Seconds
  deriving DecidableEq

instance : Keyed WebhookDelivery where
  Key := String × String × String
  key r := (r.id, r.eventId, r.subscriptionId)
  clash k k' := k.1 == k'.1 || k.2 == k'.2
  clash_comm k k' := by rw [text_clash_comm, texts_clash_comm]

/-- The outbox. -/
structure Store where
  subscriptions : Table Subscription
  events : Table PendingEvent
  deliveries : Table WebhookDelivery

/-! ## What the statements write -/

/-- `DELIVERY_LEASE_MS`. -/
def DELIVERY_LEASE_MS : Millis := 60000

/-- `MAX_DELIVERY_ATTEMPTS`. -/
def MAX_DELIVERY_ATTEMPTS : ℕ := 7

/-- The row `enqueueEvent` inserts. -/
def newEvent (id : String) (workspaceId : WorkspaceId) (eventType : String) (payload : Payload)
    (unixepoch : Seconds) : PendingEvent where
  id := id
  workspaceId := workspaceId
  eventType := eventType
  payload := payload
  status := .pending
  attempts := 0
  maxAttempts := 32
  webhookInitialized := false
  lastError := none
  createdAt := unixepoch
  processAfter := unixepoch
  completedAt := none

/-- What `initializePersistentDeliveries` inserts for a subscription. -/
structure NewDelivery where
  id : String
  eventId : String
  subscriptionId : String
  nextAttemptAt : Seconds
  deriving DecidableEq

/-- The inserted row. -/
def NewDelivery.row (v : NewDelivery) (unixepoch : Seconds) : WebhookDelivery where
  id := v.id
  eventId := v.eventId
  subscriptionId := v.subscriptionId
  status := .pending
  attempts := 0
  nextAttemptAt := v.nextAttemptAt
  lastError := none
  lastStatus := none
  createdAt := unixepoch
  completedAt := none

namespace WebhookDelivery

variable (r : WebhookDelivery)

/-- The condition of `claimDelivery`. -/
def claimable (now : Millis) : Bool :=
  r.status == .pending && decide (r.nextAttemptAt ≤ toSeconds now) &&
    decide (r.attempts < MAX_DELIVERY_ATTEMPTS)

/-- The row after `claimDelivery`. -/
def claim (now : Millis) : WebhookDelivery :=
  { r with
    attempts := r.attempts + 1
    nextAttemptAt := toSeconds (now + DELIVERY_LEASE_MS)
    lastError := none }

/-- The condition of `deadLetterExpiredFinalAttempts`. -/
def expired (eventId : String) (now : Millis) : Bool :=
  r.eventId == eventId && r.status == .pending && decide (r.nextAttemptAt ≤ toSeconds now) &&
    decide (MAX_DELIVERY_ATTEMPTS ≤ r.attempts)

/-- The condition of `failUnavailableDelivery`. -/
def due (now : Millis) : Bool :=
  r.status == .pending && decide (r.nextAttemptAt ≤ toSeconds now)

/-- `ownsClaim`: the row is as the claim `c` left it. -/
def ownedBy (c : WebhookDelivery) : Bool :=
  r.id == c.id && r.status == .pending && r.attempts == c.attempts &&
    r.nextAttemptAt == c.nextAttemptAt

/-- Can the delivery be replayed? -/
def isTerminal : Bool := r.status == .failed || r.status == .deadLetter

/-- The row after a replay. -/
def replay (now : Millis) : WebhookDelivery :=
  { r with
    status := .pending
    attempts := 0
    nextAttemptAt := toSeconds now
    lastError := none
    lastStatus := none
    completedAt := none }

/-- The row once it is settled. -/
def complete (status : DeliveryStatus) (lastError : Option String) (now : Millis) :
    WebhookDelivery :=
  { r with status := status, lastError := lastError, completedAt := some (toSeconds now) }

end WebhookDelivery

/-- What a settlement writes. -/
inductive Settlement
  | settled (status : DeliveryStatus) (lastStatus : Option ℕ) (lastError : Option String)
      (completedAt : Millis)
  | retry (nextAttemptAt : Millis) (lastStatus : Option ℕ) (lastError : Option String)

/-- The row a settlement leaves. -/
def Settlement.apply : Settlement → WebhookDelivery → WebhookDelivery
  | .settled status lastStatus lastError completedAt, r =>
    { r with
      status := status, lastStatus := lastStatus, lastError := lastError,
      completedAt := some (toSeconds completedAt) }
  | .retry nextAttemptAt lastStatus lastError, r =>
    { r with
      nextAttemptAt := toSeconds nextAttemptAt, lastStatus := lastStatus, lastError := lastError }

namespace PendingEvent

variable (e : PendingEvent)

/-- The condition of `claimDueEvents`. -/
def claimable (now : Millis) : Bool :=
  e.status == .pending && decide (e.processAfter ≤ toSeconds now) &&
    decide (e.attempts < e.maxAttempts)

/-- The row after `claimDueEvents`. -/
def claim (now leaseMs : Millis) : PendingEvent :=
  { e with attempts := e.attempts + 1, processAfter := toSeconds (now + leaseMs) }

/-- The condition of `failExhaustedDueEvents`. -/
def exhausted (now : Millis) : Bool :=
  e.status == .pending && decide (e.processAfter ≤ toSeconds now) &&
    decide (e.maxAttempts ≤ e.attempts)

/-- The condition of `cleanupOldEvents`. -/
def prunable (cutoff : Millis) : Bool :=
  (e.status == .completed || e.status == .failed) &&
    e.completedAt.any fun t => decide (t ≤ toSeconds cutoff)

/-- The row once it is settled. -/
def settle (status : EventStatus) (lastError : Option String) (now : Millis) : PendingEvent :=
  { e with status := status, lastError := lastError, completedAt := some (toSeconds now) }

/-- The row after a replay of one of its deliveries. -/
def replay (now : Millis) : PendingEvent :=
  { e with
    status := .pending
    attempts := 0
    maxAttempts := 32
    processAfter := toSeconds now
    lastError := none
    completedAt := none }

end PendingEvent

/-- A request as it is sent. -/
structure Request where
  url : String
  headers : List (String × String)
  body : String
  deriving DecidableEq

/-- What is thrown. -/
structure Failure where
  message : String
  retryAfterMs : Option Millis
  deriving DecidableEq

/-- A foreign key, or a primary key, that an insert violates. -/
def constraintFailed : Failure := ⟨"constraint failed", none⟩

/-! ## Statements -/

/-- The statements.  A request names the delivery it is for. -/
inductive Stmt
  | newDate
  | insertSubscription (row : Subscription)
  | deleteSubscription (workspaceId : WorkspaceId) (id : String)
  | selectSubscriptions (workspaceId : WorkspaceId)
  | insertEvent (id : String) (workspaceId : WorkspaceId) (eventType : String) (payload : Payload)
  | failExhausted (now : Millis) (error : String)
  | claimDue (now : Millis) (limit : ℕ) (leaseMs : Millis)
  | completeEvent (id : String) (now : Millis)
  | failEvent (id : String) (error : String) (now : Millis)
  | rescheduleEvent (id : String) (error : String) (processAfter : Millis)
  | deleteSettled (cutoff : Millis)
  | selectCreatedAt (eventId : String)
  | selectInitialized (eventId : String)
  | insertDeliveries (values : List NewDelivery)
  | setInitialized (eventId : String)
  | deadLetterExpired (eventId : String) (now : Millis)
  | selectDeliveries (eventId : String)
  | failUnavailable (id : String) (now : Millis)
  | claimDelivery (id : String) (now : Millis)
  | fetch (deliveryId : String) (request : Request)
  | settle (claimed : WebhookDelivery) (settlement : Settlement)
  | selectForReplay (workspaceId : WorkspaceId) (subscriptionId deliveryId : String)
  | replay (eventId deliveryId : String) (now : Millis)
  | selectStatus (deliveryId : String)

/-- What the outside world contributes: the readings of the clock, `unixepoch()` where a column
defaults to it, and what comes of a request. -/
def Stmt.Answer : Stmt → Type
  | .newDate => Millis
  | .insertEvent .. | .insertDeliveries _ => Seconds
  | .fetch .. => Except String ℕ
  | _ => Unit

/-- What each statement replies. -/
def Stmt.Reply : Stmt → Type
  | .newDate => Millis
  | .insertSubscription _ | .insertEvent .. | .insertDeliveries _ => Except Failure Unit
  | .deleteSubscription .. => Bool
  | .selectSubscriptions _ => List Subscription
  | .failExhausted .. | .deleteSettled _ => ℕ
  | .claimDue .. => List PendingEvent
  | .selectCreatedAt _ => Option Seconds
  | .selectInitialized _ => Option Bool
  | .selectDeliveries _ => List WebhookDelivery
  | .claimDelivery .. => Option WebhookDelivery
  | .fetch .. => Except String ℕ
  | .selectForReplay .. => Option (WebhookDelivery × PendingEvent)
  | .replay .. => Bool
  | .selectStatus _ => Option DeliveryStatus
  | .completeEvent .. | .failEvent .. | .rescheduleEvent .. | .setInitialized _
  | .deadLetterExpired .. | .failUnavailable .. | .settle .. => Unit

/-- The language of the outbox. -/
abbrev lang : Language where
  Stmt := Stmt
  Answer := Stmt.Answer
  Reply := Stmt.Reply

/-- Issue one statement and return its reply. -/
abbrev await (q : Stmt) : Prog lang q.Reply := Prog.ask (L := lang) q

namespace Store

variable (s : Store)

/-- The row of an event. -/
def event? (id : String) : Option PendingEvent := s.events.rows.find? fun e => e.id == id

/-- The row of a delivery. -/
def delivery? (id : String) : Option WebhookDelivery := s.deliveries.rows.find? fun r => r.id == id

/-- The row of a subscription. -/
def subscription? (id : String) : Option Subscription :=
  s.subscriptions.rows.find? fun r => r.id == id

/-- Update events whose identity the update keeps. -/
def updateEvents (p : PendingEvent → Bool) (f : PendingEvent → PendingEvent)
    (hf : ∀ e, key (f e) = key e) : Store := { s with events := s.events.update p f hf }

/-- Update deliveries whose identity the update keeps. -/
def updateDeliveries (p : WebhookDelivery → Bool) (f : WebhookDelivery → WebhookDelivery)
    (hf : ∀ r, key (f r) = key r) : Store := { s with deliveries := s.deliveries.update p f hf }

/-- Delete subscriptions, and the deliveries to them. -/
def deleteSubscriptions (p : Subscription → Bool) : Store :=
  { s with
    subscriptions := s.subscriptions.deleteWhere p
    deliveries := s.deliveries.deleteWhere fun r => (s.subscription? r.subscriptionId).any p }

/-- Delete events, and their deliveries. -/
def deleteEvents (p : PendingEvent → Bool) : Store :=
  { s with
    events := s.events.deleteWhere p
    deliveries := s.deliveries.deleteWhere fun r => (s.event? r.eventId).any p }

/-- Is there a row for whatever the inserted deliveries refer to? -/
def refersToRows (values : List NewDelivery) : Bool :=
  values.all fun v => (s.event? v.eventId).isSome && (s.subscription? v.subscriptionId).isSome

/-- The identifiers of the events that are due first. -/
def dueEvents (now : Millis) (limit : ℕ) : List String :=
  (firstRows PendingEvent.processAfter limit (s.events.select fun e => e.claimable now)).map
    PendingEvent.id

end Store

lemma Settlement.key_apply (w : Settlement) (r : WebhookDelivery) : key (w.apply r) = key r := by
  cases w <;> rfl

/-- Execute one statement. -/
def run : (q : Stmt) → q.Answer → Store → q.Reply × Store
  | .newDate, (a : Millis), s => (a, s)
  | .insertSubscription row, _, s =>
    if h : s.subscriptions.conflicts row = false then
      (.ok (), { s with subscriptions := s.subscriptions.insert row h })
    else (.error constraintFailed, s)
  | .deleteSubscription workspaceId id, _, s =>
    let p : Subscription → Bool := fun r => r.id == id && r.workspaceId == workspaceId
    (s.subscriptions.rows.any p, s.deleteSubscriptions p)
  | .selectSubscriptions workspaceId, _, s =>
    (s.subscriptions.select fun r => r.workspaceId == workspaceId && r.isActive, s)
  | .insertEvent id workspaceId eventType payload, (unixepoch : Seconds), s =>
    let row := newEvent id workspaceId eventType payload unixepoch
    if h : s.events.conflicts row = false then
      (.ok (), { s with events := s.events.insert row h })
    else (.error constraintFailed, s)
  | .failExhausted now error, _, s =>
    (s.events.count fun e => e.exhausted now,
      s.updateEvents (fun e => e.exhausted now) (fun e => e.settle .failed (some error) now)
        fun _ => rfl)
  | .claimDue now limit leaseMs, _, s =>
    let p : PendingEvent → Bool := fun e => (s.dueEvents now limit).contains e.id
    let claim : PendingEvent → PendingEvent := fun e => e.claim now leaseMs
    (s.events.returning p claim, s.updateEvents p claim fun _ => rfl)
  | .completeEvent id now, _, s =>
    ((), s.updateEvents (fun e => e.id == id && e.status == .pending)
      (fun e => e.settle .completed e.lastError now) fun _ => rfl)
  | .failEvent id error now, _, s =>
    ((), s.updateEvents (fun e => e.id == id && e.status == .pending)
      (fun e => e.settle .failed (some error) now) fun _ => rfl)
  | .rescheduleEvent id error processAfter, _, s =>
    ((), s.updateEvents (fun e => e.id == id && e.status == .pending)
      (fun e => { e with processAfter := toSeconds processAfter, lastError := some error })
      fun _ => rfl)
  | .deleteSettled cutoff, _, s =>
    (s.events.count fun e => e.prunable cutoff, s.deleteEvents fun e => e.prunable cutoff)
  | .selectCreatedAt eventId, _, s => ((s.event? eventId).map PendingEvent.createdAt, s)
  | .selectInitialized eventId, _, s => ((s.event? eventId).map PendingEvent.webhookInitialized, s)
  | .insertDeliveries values, (unixepoch : Seconds), s =>
    if s.refersToRows values then
      (.ok (), { s with
        deliveries :=
          (values.map fun v => v.row unixepoch).foldl Table.insertOrIgnore s.deliveries })
    else (.error constraintFailed, s)
  | .setInitialized eventId, _, s =>
    ((), s.updateEvents (fun e => e.id == eventId) (fun e => { e with webhookInitialized := true })
      fun _ => rfl)
  | .deadLetterExpired eventId now, _, s =>
    ((), s.updateDeliveries (fun r => r.expired eventId now)
      (fun r => r.complete .deadLetter
        (some "attempts exhausted after delivery lease expired") now) fun _ => rfl)
  | .selectDeliveries eventId, _, s => (s.deliveries.select fun r => r.eventId == eventId, s)
  | .failUnavailable id now, _, s =>
    ((), s.updateDeliveries (fun r => r.id == id && r.due now)
      (fun r => r.complete .failed
        (some "subscription inactive or no longer matches this event") now) fun _ => rfl)
  | .claimDelivery id now, _, s =>
    let p : WebhookDelivery → Bool := fun r => r.id == id && r.claimable now
    let claim : WebhookDelivery → WebhookDelivery := fun r => r.claim now
    ((s.deliveries.returning p claim).head?, s.updateDeliveries p claim fun _ => rfl)
  | .fetch .., (a : Except String ℕ), s => (a, s)
  | .settle claimed settlement, _, s =>
    ((), s.updateDeliveries (fun r => r.ownedBy claimed) settlement.apply settlement.key_apply)
  | .selectForReplay workspaceId subscriptionId deliveryId, _, s =>
    let joined : Option (WebhookDelivery × PendingEvent) := do
      let r ← s.delivery? deliveryId
      let sub ← s.subscription? r.subscriptionId
      let e ← s.event? r.eventId
      if r.subscriptionId == subscriptionId && sub.workspaceId == workspaceId then some (r, e)
      else none
    (joined, s)
  | .replay eventId deliveryId now, _, s =>
    let terminal := s.deliveries.rows.any fun r => r.id == deliveryId && r.isTerminal
    (terminal, (s.updateEvents (fun e => e.id == eventId && terminal) (fun e => e.replay now)
        fun _ => rfl).updateDeliveries (fun r => r.id == deliveryId && r.isTerminal)
      (fun r => r.replay now) fun _ => rfl)
  | .selectStatus deliveryId, _, s => ((s.delivery? deliveryId).map WebhookDelivery.status, s)

/-- What happens outside the outbox: a workspace is deleted, or drained, row by row. -/
structure Deletion where
  subscriptions : List String
  events : List String
  deliveries : List String

/-- What a deletion leaves. -/
def Deletion.apply (d : Deletion) (s : Store) : Store :=
  let s := s.deleteSubscriptions fun r => d.subscriptions.contains r.id
  let s := s.deleteEvents fun e => d.events.contains e.id
  { s with deliveries := s.deliveries.deleteWhere fun r => d.deliveries.contains r.id }

/-- The machine of the outbox. -/
def machine : Machine lang Store where
  run := run
  Drift := Deletion
  drift := Deletion.apply

end Webhook
