import Relaycast.Script.Json
import Relaycast.Script.Text
import Relaycast.Webhook.Outbox
import Relaycast.Webhook.StandardWebhook

/-!
# Delivering the events of the outbox

The functions that work on the outbox, and the system they make up.  What the platform does is a
parameter: hashes and signatures, the format of a date, and which addresses and headers it accepts.

Where the source starts several promises at once, the order of their statements is part of the call.
-/

namespace Webhook

open Relational Interleaving Script

/-- What the platform does for a delivery. -/
structure Platform where
  toISOString : Millis → String
  sha256Hex : String → String
  hmacSha256Hex : String → String → String
  hmacSha256 : Hmac
  isSafeExternalUrl : String → Bool
  acceptsHeaders : List (String × String) → Except String Unit

/-! ## Filters -/

/-- A character that `\b` counts as part of a word. -/
def isWordChar (c : Char) : Bool := c.isAlphanum || c == '_'

/-- Does `(?:\b|$)` match between a text that ends in `last` and `rest`? -/
def endsThere (last : Char) : List Char → Bool
  | [] => true
  | c :: _ => isWordChar last != isWordChar c

/-- `mentionPattern.test(text)`: the mention behind an `@`, up to where it ends. -/
def testMention (mentions : List Char) : List Char → Bool
  | [] => false
  | c :: text =>
    (('@' :: mentions).isPrefixOf (c :: text) &&
      endsThere (mentions.getLast?.getD '@') (text.drop mentions.length)) ||
    testMention mentions text

/-- `matchesFilter`. -/
def matchesFilter (filter : Option Filter) (payload : Payload) : Bool :=
  match filter with
  | none => true
  | some filter =>
    let channelName := orText payload.channelName (orText payload.channel "")
    let text := orText payload.text ""
    (!truthy filter.channel || (channelName != "" && filter.channel == some channelName)) &&
      (!truthy filter.mentions || filter.mentions.all fun m => testMention m.toList text.toList)

/-! ## One attempt -/

/-- `MAX_WEBHOOK_BYTES`. -/
def MAX_WEBHOOK_BYTES : ℕ := 256 * 1024

/-- `WEBHOOK_RETRY_DELAYS_MS`. -/
def WEBHOOK_RETRY_DELAYS_MS : List Millis :=
  [30000, 2 * 60000, 10 * 60000, 30 * 60000, 60 * 60000, 2 * 60 * 60000]

/-- Does a configured header reach the subscriber? -/
def isPublicHeader (name : String) : Bool :=
  let lower := toLowerCase name.toList
  lower != "content-type".toList && !"x-relay-".toList.isPrefixOf lower &&
    !"webhook-".toList.isPrefixOf lower && lower != "x-forward-to".toList &&
      lower != "x-proxy-auth".toList

/-- `publicDeliveryHeaders`. -/
def publicDeliveryHeaders (headers : Option (List (String × String))) : List (String × String) :=
  (headers.getD []).filter fun h => isPublicHeader h.1

/-- `stableDeliveryId`. -/
def stableDeliveryId (platform : Platform) (eventId subscriptionId : String) : String :=
  let digest := platform.sha256Hex (eventId ++ "\x00" ++ subscriptionId)
  "whd_" ++ String.ofList (digest.toList.take 32)

/-- What `buildDeliveryHeaders` adds for a secret. -/
def signatureHeaders (platform : Platform) (target : Subscription) (deliveryId body : String)
    (now : Millis) : Except String (List (String × String)) :=
  match target.secret with
  | none => .ok []
  | some secret =>
    if secret = "" then .ok []
    else match target.signatureScheme with
    | .standardWebhooks =>
      let timestampSeconds := secondsText (now / 1000)
      (signStandardWebhook platform.hmacSha256 secret deliveryId timestampSeconds body).map
        fun signature =>
          [("webhook-timestamp", timestampSeconds), ("webhook-signature", signature)]
    | .legacy => .ok [("X-Relay-Signature", "sha256=" ++ platform.hmacSha256Hex body secret)]

/-- The headers of every request. -/
def serviceHeaders (platform : Platform) (eventType deliveryId : String) (now : Millis) :
    List (String × String) :=
  [("Content-Type", "application/json"), ("X-Relay-Event", eventType),
    ("X-Relay-Timestamp", platform.toISOString now), ("webhook-id", deliveryId)]

/-- `buildDeliveryHeaders`. -/
def buildDeliveryHeaders (platform : Platform) (target : Subscription)
    (eventType deliveryId body : String) (now : Millis) : Except String (List (String × String)) :=
  (signatureHeaders platform target deliveryId body now).map fun signature =>
    publicDeliveryHeaders target.headers ++ serviceHeaders platform eventType deliveryId now ++
      signature

/-- `AttemptDeliveryResult`. -/
structure AttemptDeliveryResult where
  ok : Bool
  retryable : Bool
  status : Option ℕ
  error : Option String
  deriving DecidableEq

/-- What a response, or an exception, says of the attempt. -/
def attempted : Except String ℕ → AttemptDeliveryResult
  | .error message => ⟨false, true, none, some message⟩
  | .ok status =>
    if 200 ≤ status ∧ status < 300 then ⟨true, false, some status, none⟩
    else if 300 ≤ status ∧ status < 400 then ⟨false, false, some status, some s!"HTTP {status}"⟩
    else if status = 410 ∨ status = 413 then ⟨false, false, some status, some s!"HTTP {status}"⟩
    else if 400 ≤ status ∧ status < 500 ∧ status ≠ 408 ∧ status ≠ 429 then
      ⟨false, false, some status, some s!"HTTP {status}"⟩
    else ⟨false, true, some status, some s!"HTTP {status}"⟩

/-- What is sent, unless the attempt fails before. -/
def prepareRequest (platform : Platform) (target : Subscription)
    (eventType deliveryId body : String) (now : Millis) : Except AttemptDeliveryResult Request :=
  if MAX_WEBHOOK_BYTES < body.utf8ByteSize then
    .error ⟨false, false, some 413, some "payload exceeds 256 KiB"⟩
  else if !platform.isSafeExternalUrl target.url then
    .error ⟨false, false, none, some "unsafe webhook URL"⟩
  else
    match buildDeliveryHeaders platform target eventType deliveryId body now with
    | .error message => .error ⟨false, false, none, some message⟩
    | .ok headers =>
      match platform.acceptsHeaders headers with
      | .error message => .error ⟨false, false, none, some message⟩
      | .ok _ => .ok ⟨target.url, headers, body⟩

/-- `attemptDelivery`. -/
def attemptDelivery (platform : Platform) (target : Subscription)
    (eventType deliveryId body : String) (now : Millis) : Prog lang AttemptDeliveryResult :=
  match prepareRequest platform target eventType deliveryId body now with
  | .error result => return result
  | .ok request => do
    let response : Except String ℕ ← await (.fetch deliveryId request)
    return attempted response

/-- What `settleDelivery` writes. -/
def settlement (claimed : WebhookDelivery) (result : AttemptDeliveryResult) (now : Millis) :
    Settlement :=
  if result.ok then .settled .succeeded result.status none now
  else if !result.retryable then .settled .failed result.status result.error now
  else if MAX_DELIVERY_ATTEMPTS ≤ claimed.attempts then
    .settled .deadLetter result.status result.error now
  else
    .retry (now + WEBHOOK_RETRY_DELAYS_MS.getD (claimed.attempts - 1) 0) result.status result.error

/-! ## One pass over the deliveries of an event -/

/-- `activeTargets`, and those of them whose filter matches. -/
def activeTargets (workspaceId : WorkspaceId) (eventType : String) (payload : Payload) :
    Prog lang (List Subscription) := do
  let rows : List Subscription ← await (.selectSubscriptions workspaceId)
  return (rows.filter fun r => r.events.contains eventType || r.events.contains "*").filter
    fun target => matchesFilter target.filter payload

/-- `now ?? new Date()`. -/
def clock (now : Option Millis) : Prog lang Millis :=
  match now with
  | some now => return now
  | none => await .newDate

/-- The insert of `initializePersistentDeliveries`, if there is anything to insert. -/
def insertDeliveries (values : List NewDelivery) : Prog lang (Except Failure Unit) :=
  if values.isEmpty then return .ok () else await (.insertDeliveries values)

/-- `initializePersistentDeliveries`. -/
def initializePersistentDeliveries (platform : Platform) (eventId : String)
    (targets : List Subscription) (now : Millis) : Prog lang (Except Failure Bool) := do
  let parent : Option Bool ← await (.selectInitialized eventId)
  match parent with
  | none => return .ok false
  | some true => return .ok true
  | some false =>
    let inserted : Except Failure Unit ← insertDeliveries (targets.map fun target =>
      ⟨stableDeliveryId platform eventId target.id, eventId, target.id, toSeconds now⟩)
    match inserted with
    | .error failure => return .error failure
    | .ok () =>
      let _ : Unit ← await (.setInitialized eventId)
      return .ok true

/-- What is the same for all deliveries of a pass. -/
structure Pass where
  eventType : String
  body : String
  now : Millis
  targets : List Subscription

/-- `targetById.get`: of two targets of one id the last one counts. -/
def Pass.target? (pass : Pass) (subscriptionId : String) : Option Subscription :=
  pass.targets.reverse.find? fun target => target.id == subscriptionId

/-- Is a row due in the pass? -/
def Pass.isDue (pass : Pass) (r : WebhookDelivery) : Bool :=
  r.status == .pending && decide (toDate r.nextAttemptAt ≤ pass.now)

/-- What a pass does with the claim of a row. -/
def deliverClaimed (platform : Platform) (pass : Pass) (target : Subscription)
    (claimed : WebhookDelivery) : Prog lang Unit := do
  let result : AttemptDeliveryResult ←
    attemptDelivery platform target pass.eventType claimed.id pass.body pass.now
  await (.settle claimed (settlement claimed result pass.now))

/-- What a pass does with one row. -/
def deliverRow (platform : Platform) (pass : Pass) (r : WebhookDelivery) : Prog lang Unit :=
  if !pass.isDue r then return ()
  else match pass.target? r.subscriptionId with
  | none => return ()
  | some target => do
    let claimed : Option WebhookDelivery ← await (.claimDelivery r.id pass.now)
    match claimed with
    | none => return ()
    | some claimed => deliverClaimed platform pass target claimed

/-- `EventDeliverySummary`. -/
structure EventDeliverySummary where
  attempted : ℕ
  succeeded : ℕ
  failed : ℕ
  retryableFailures : ℕ
  deadLettered : ℕ

/-- `emptySummary`. -/
def emptySummary : EventDeliverySummary := ⟨0, 0, 0, 0, 0⟩

/-- What a pass returns, or throws, once its rows are settled. -/
def summarise (settled : List WebhookDelivery) (now : Millis) :
    Except Failure EventDeliverySummary :=
  let pending := settled.filter fun r => r.status == .pending
  let deadLettered := settled.countP fun r => r.status == .deadLetter
  let failed := settled.countP fun r => r.status == .failed || r.status == .deadLetter
  let succeeded := settled.countP fun r => r.status == .succeeded
  match (pending.map fun r => toDate r.nextAttemptAt).min? with
  | some nextRetryAt =>
    .error ⟨s!"Retryable webhook delivery failures: {pending.length} of {settled.length}",
      some (nextRetryAt - now)⟩
  | none => .ok ⟨settled.length, succeeded, failed, 0, deadLettered⟩

/-- The order in which the two groups of promises of a pass issue their statements. -/
structure PassOrder where
  unavailable : List ℕ
  deliveries : List ℕ

/-- `DeliverEventOptions`, for an event of the outbox. -/
structure DeliverEventOptions where
  eventId : String
  eventTimestamp : Option Millis
  hasFetch : Bool
  now : Option Millis

/-- `event_delivery_fetch_required`. -/
def fetchRequired : Failure :=
  ⟨"Outbound webhook delivery requires a platform SSRF-safe fetch implementation", none⟩

/-- What `deliverEvent` does once the deliveries of the event have rows. -/
def deliverInitialized (platform : Platform) (eventId : String) (hasFetch : Bool) (pass : Pass)
    (order : PassOrder) : Prog lang (Except Failure EventDeliverySummary) := do
  let _ : Unit ← await (.deadLetterExpired eventId pass.now)
  let rows : List WebhookDelivery ← await (.selectDeliveries eventId)
  if rows.isEmpty then return .ok emptySummary
  else do
    let dueRows := rows.filter pass.isDue
    Prog.all order.unavailable
      ((dueRows.filter fun r => (pass.target? r.subscriptionId).isNone).map fun r =>
        await (.failUnavailable r.id pass.now))
    if !hasFetch && dueRows.any (fun r => (pass.target? r.subscriptionId).isSome) then
      return .error fetchRequired
    else do
      Prog.all order.deliveries (rows.map (deliverRow platform pass))
      let settled : List WebhookDelivery ← await (.selectDeliveries eventId)
      return summarise settled pass.now

/-- The text of the event. -/
def eventBody (platform : Platform) (workspaceId : WorkspaceId) (eventType : String)
    (payload : Payload) (timestamp : Millis) : String :=
  "\x7b\"type\":" ++ String.ofList (quote eventType) ++ ",\"workspace_id\":" ++
    String.ofList (quote workspaceId) ++ ",\"timestamp\":" ++
      String.ofList (quote (platform.toISOString timestamp)) ++ ",\"data\":" ++ payload.json ++ "\x7d"

/-- Where the timestamp of the event comes from. -/
def timestampSource (options : DeliverEventOptions) : Prog lang (Option Millis) :=
  match options.eventTimestamp with
  | some timestamp => return some timestamp
  | none => do
    let parent : Option Seconds ← await (.selectCreatedAt options.eventId)
    return parent.map toDate

/-- `deliverEvent`. -/
def deliverEvent (platform : Platform) (workspaceId : WorkspaceId) (eventType : String)
    (payload : Payload) (options : DeliverEventOptions) (order : PassOrder) :
    Prog lang (Except Failure EventDeliverySummary) := do
  let now : Millis ← clock options.now
  let createdAt : Option Millis ← timestampSource options
  let body := eventBody platform workspaceId eventType payload (createdAt.getD now)
  let targets : List Subscription ← activeTargets workspaceId eventType payload
  let initialized : Except Failure Bool ←
    initializePersistentDeliveries platform options.eventId targets now
  match initialized with
  | .error failure => return .error failure
  | .ok false => return .ok emptySummary
  | .ok true =>
    deliverInitialized platform options.eventId options.hasFetch ⟨eventType, body, now, targets⟩
      order

/-! ## The queue -/

/-- `DurableEventQueueOptions`. -/
structure QueueOptions where
  baseBackoffMs : Millis := 30000
  maxBackoffMs : Millis := 15 * 60000
  leaseMs : Millis := 60000
  batchSize : ℕ := 25

/-- `failExhaustedDueEvents`. -/
def failExhaustedDueEvents (now : Option Millis) : Prog lang ℕ := do
  let now : Millis ← clock now
  await (.failExhausted now "attempts exhausted after delivery lease expired")

/-- `claimDueEvents`. -/
def claimDueEvents (now : Option Millis) (limit : ℕ) (leaseMs : Millis) :
    Prog lang (List PendingEvent) := do
  let now : Millis ← clock now
  await (.claimDue now limit leaseMs)

/-- `completeEvent`. -/
def completeEvent (id : String) : Prog lang Unit := do
  let now : Millis ← await .newDate
  await (.completeEvent id now)

/-- `failEvent`. -/
def failEvent (id error : String) : Prog lang Unit := do
  let now : Millis ← await .newDate
  await (.failEvent id error now)

/-- `rescheduleEvent`. -/
def rescheduleEvent (id error : String) (backoffMs : Millis) : Prog lang Unit := do
  let now : Millis ← await .newDate
  await (.rescheduleEvent id error (now + backoffMs))

/-- `cleanupOldEvents`. -/
def cleanupOldEvents (maxAgeMs : Millis) : Prog lang ℕ := do
  let _ : ℕ ← failExhaustedDueEvents none
  let now : Millis ← await .newDate
  await (.deleteSettled (now - maxAgeMs))

/-- `sweepPendingEvents`; the callbacks it hands out are `completeEvent`, `failEvent` and
`rescheduleEvent`. -/
def sweepPendingEvents (now : Option Millis) (limit : ℕ) (leaseMs : Millis) :
    Prog lang (List PendingEvent) := do
  let _ : ℕ ← failExhaustedDueEvents now
  claimDueEvents now limit leaseMs

/-- What `process` does where the delivery threw. -/
def processFailure (options : QueueOptions) (event : PendingEvent) (failure : Failure) :
    Prog lang Unit :=
  if event.maxAttempts ≤ event.attempts then
    failEvent event.id s!"{failure.message} (attempts exhausted)"
  else
    rescheduleEvent event.id failure.message
      (failure.retryAfterMs.getD
        (min (options.baseBackoffMs * 2 ^ (event.attempts - 1)) options.maxBackoffMs))

/-- `DurableEventQueue.process`. -/
def process (platform : Platform) (options : QueueOptions) (event : PendingEvent)
    (order : PassOrder) : Prog lang Unit := do
  let delivered : Except Failure EventDeliverySummary ←
    deliverEvent platform event.workspaceId event.eventType event.payload
      ⟨event.id, some (toDate event.createdAt), true, none⟩ order
  match delivered with
  | .error failure => processFailure options event failure
  | .ok summary =>
    if 0 < summary.failed then
      failEvent event.id
        s!"terminal delivery failure: {summary.failed} of {summary.attempted} subscriber(s)"
    else completeEvent event.id

/-- The orders of one round of a poll: that of its events, and for each of them that of its pass. -/
structure RoundOrder where
  events : List ℕ
  pass : String → PassOrder

/-- The rounds of a poll, one for each order. -/
def pollRounds (platform : Platform) (options : QueueOptions) : List RoundOrder → Prog lang Unit
  | [] => return ()
  | order :: orders => do
    let _ : ℕ ← failExhaustedDueEvents none
    let claimed : List PendingEvent ← claimDueEvents none options.batchSize options.leaseMs
    if claimed.isEmpty then return ()
    else do
      Prog.all order.events
        (claimed.map fun event => process platform options event (order.pass event.id))
      if claimed.length < options.batchSize then return ()
      else pollRounds platform options orders

/-- `DurableEventQueue.poll`, up to the last round there is an order for; `cleanup` says whether its
cleanup is due.  Another poll of the instance is skipped while one is under way, which only leaves
out runs. -/
def poll (platform : Platform) (options : QueueOptions) (orders : List RoundOrder)
    (cleanup : Bool) : Prog lang Unit := do
  pollRounds platform options orders
  if cleanup then do
    let _ : ℕ ← cleanupOldEvents (24 * 60 * 60 * 1000)
    return ()
  else return ()

/-- `ReplayWebhookDeliveryResult`. -/
inductive ReplayResult
  | notFound
  | notReplayable (status : DeliveryStatus)
  | replayed (outboxId : String) (type : String) (data : Payload)

/-- `replayWebhookDelivery`. -/
def replayWebhookDelivery (workspaceId : WorkspaceId) (subscriptionId deliveryId : String) :
    Prog lang ReplayResult := do
  let found : Option (WebhookDelivery × PendingEvent) ←
    await (.selectForReplay workspaceId subscriptionId deliveryId)
  match found with
  | none => return .notFound
  | some (row, event) =>
    if row.status ≠ .failed ∧ row.status ≠ .deadLetter then return .notReplayable row.status
    else do
      let now : Millis ← await .newDate
      let replayed : Bool ← await (.replay event.id row.id now)
      if replayed then return .replayed event.id event.eventType event.payload
      else do
        let current : Option DeliveryStatus ← await (.selectStatus row.id)
        match current with
        | some status => return .notReplayable status
        | none => return .notFound

/-! ## The service -/

/-- A call of one of the functions. -/
inductive Call
  | createSubscription (row : Subscription)
  | deleteSubscription (workspaceId : WorkspaceId) (id : String)
  | enqueueEvent (id : String) (workspaceId : WorkspaceId) (eventType : String) (payload : Payload)
  | deliverEvent (workspaceId : WorkspaceId) (eventType : String) (payload : Payload)
      (options : DeliverEventOptions) (order : PassOrder)
  | poll (options : QueueOptions) (orders : List RoundOrder) (cleanup : Bool)
  | sweepPendingEvents (now : Option Millis) (limit : ℕ) (leaseMs : Millis)
  | completeEvent (id : String)
  | failEvent (id error : String)
  | rescheduleEvent (id error : String) (backoffMs : Millis)
  | cleanupOldEvents (maxAgeMs : Millis)
  | replayWebhookDelivery (workspaceId : WorkspaceId) (subscriptionId deliveryId : String)

/-- What a call returns. -/
def Call.Result : Call → Type
  | .createSubscription _ | .enqueueEvent .. => Except Failure Unit
  | .deleteSubscription .. => Bool
  | .deliverEvent .. => Except Failure EventDeliverySummary
  | .sweepPendingEvents .. => List PendingEvent
  | .cleanupOldEvents _ => ℕ
  | .replayWebhookDelivery .. => ReplayResult
  | .poll .. | .completeEvent _ | .failEvent .. | .rescheduleEvent .. => Unit

/-- The body of a call. -/
def Call.body (platform : Platform) : (c : Call) → Prog lang c.Result
  | .createSubscription row => await (.insertSubscription row)
  | .deleteSubscription workspaceId id => await (.deleteSubscription workspaceId id)
  | .enqueueEvent id workspaceId eventType payload =>
    await (.insertEvent id workspaceId eventType payload)
  | .deliverEvent workspaceId eventType payload options order =>
    Webhook.deliverEvent platform workspaceId eventType payload options order
  | .poll options orders cleanup => Webhook.poll platform options orders cleanup
  | .sweepPendingEvents now limit leaseMs => Webhook.sweepPendingEvents now limit leaseMs
  | .completeEvent id => Webhook.completeEvent id
  | .failEvent id error => Webhook.failEvent id error
  | .rescheduleEvent id error backoffMs => Webhook.rescheduleEvent id error backoffMs
  | .cleanupOldEvents maxAgeMs => Webhook.cleanupOldEvents maxAgeMs
  | .replayWebhookDelivery workspaceId subscriptionId deliveryId =>
    Webhook.replayWebhookDelivery workspaceId subscriptionId deliveryId

/-- The outbox; a run starts before there are any events. -/
def service (platform : Platform) : System lang Store Call Call.Result where
  toMachine := machine
  body := Call.body platform
  init s := s.events = .empty ∧ s.deliveries = .empty

end Webhook
