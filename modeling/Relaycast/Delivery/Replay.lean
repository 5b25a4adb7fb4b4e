import Relaycast.Delivery.Transitions

/-!
# Node replay

`replayPendingToNode` drains the mailboxes of the agents a node hosts when it reconnects: for each
agent in name order, up to the sequence its mailbox ended at when the drain began, page by page,
and inside a page row by row with a recheck before each send.
-/

namespace Delivery

open Relational Interleaving

/-- `NodeDeliveryReplayScope`. -/
structure NodeDeliveryReplayScope where
  providerName : Option String
  agentIds : Option (List AgentId)

/-- `wireMode`. -/
def wireMode (mode : String) : String := if mode = "next-tool-call" then "steer" else "wait"

/-- The event type of `buildRoutableDeliveryEvent`: a thread reply stays one inside a DM. -/
def routableEventType (row : PendingDelivery) : String :=
  if row.threadId.isSome then "thread.reply"
  else
    match row.dmType with
    | none => "message.created"
    | some dmType => if dmType = "group" then "group_dm.received" else "dm.received"

/-- `buildDeliverFrame`, as a replay calls it. -/
def buildDeliverFrame (recipient : Recipient) (row : PendingDelivery) : DeliverFrame where
  deliveryId := row.delivery.id
  agentId := recipient.id
  agent := row.recipientAgentName
  msgId := row.delivery.messageId
  seq := row.delivery.seq
  mode := wireMode row.delivery.mode
  eventType := routableEventType row

section Drain

variable (nodeId : NodeId) (recipient : Recipient)

/-- `isProviderAgentDeliveryReady` of the recipient. -/
def ready : Prog lang Bool := await (.providerReady nodeId recipient.providerName recipient.id)

/-- The rows of a hydrated page, one after the other: recheck, readiness, send.  Returns the ids
that were sent, and whether the page was interrupted: a higher sequence is never sent past a failed
lower one. -/
def sendRows : List PendingDelivery → Prog lang (List DeliveryId × Bool)
  | [] => return ([], false)
  | row :: rest => do
    let current : Bool ← await (.replayCurrent nodeId recipient row.delivery.id)
    if current then
      let isReady ← ready nodeId recipient
      if isReady then
        let sent : Bool ←
          await (.sendToProvider nodeId recipient.providerName (buildDeliverFrame recipient row))
        if sent then
          let (ids, interrupted) ← sendRows rest
          return (row.delivery.id :: ids, interrupted)
        else return ([], true)
      else return ([], true)
    else sendRows rest

/-- One page of a drain, already selected: hydrate, send, mark what was sent, tell the senders.
Returns the number of rows sent and whether the drain goes on. -/
def drainPage (ids : List DeliveryId) : Prog lang (ℕ × Bool) := do
  let rows : List PendingDelivery ← await (.hydratePage nodeId recipient ids)
  let _ : Unit ← await (.fetchAttachments (rows.map fun row => row.delivery.messageId).eraseDups)
  let (deliveredIds, interrupted) ← sendRows nodeId recipient rows
  let transitioned ← markDeliveriesDelivered deliveredIds
  if !transitioned.isEmpty then
    let _ : Unit ← await (.notifySenders transitioned)
    return (deliveredIds.length, !interrupted)
  else return (deliveredIds.length, !interrupted)

/-- The paging loop.  Every page ends past the cursor it began at, so `highWater - cursor` turns
are enough; that is the first argument. -/
def drainPages (highWater : ℕ) : ℕ → ℕ → Prog lang ℕ
  | 0, _ => return 0
  | fuel + 1, cursor =>
    if cursor < highWater then do
      let isReady ← ready nodeId recipient
      if isReady then
        let page : List (DeliveryId × ℕ) ← await (.replayPage recipient.id cursor highWater)
        match page.getLast? with
        | none => return 0
        | some last =>
          let (sent, goOn) ← drainPage nodeId recipient (page.map Prod.fst)
          if goOn then
            let more ← drainPages highWater fuel last.2
            return sent + more
          else return sent
      else return 0
    else return 0

/-- The drain of one recipient. -/
def drainRecipient : Prog lang ℕ := do
  let isReady ← ready nodeId recipient
  if isReady then
    let highWater : Option ℕ ← await (.highWater recipient.id)
    match highWater with
    | none => return 0
    | some highWater =>
      drainPages nodeId recipient highWater (highWater - recipient.ackSeq) recipient.ackSeq
  else return 0

end Drain

/-- The drains of a roster, one after the other. -/
def drainRoster (nodeId : NodeId) : List Recipient → Prog lang ℕ
  | [] => return 0
  | recipient :: rest => do
    let sent ← drainRecipient nodeId recipient
    let more ← drainRoster nodeId rest
    return sent + more

/-- `D1_SAFE_IN_QUERY_CHUNK_SIZE`. -/
def d1SafeInQueryChunkSize : ℕ := 90

/-- `queryInChunks` over the roster query. -/
def rosterInChunks (nodeId : NodeId) (providerName : Option String) :
    List (List AgentId) → Prog lang (List Recipient)
  | [] => return []
  | chunk :: rest => do
    let rows : List Recipient ← await (.roster nodeId providerName (some chunk))
    let more ← rosterInChunks nodeId providerName rest
    return rows ++ more

/-- `replayPendingToNode`: returns how many deliveries were sent.  The wanted ids are a set. -/
def replayPendingToNode (nodeId : NodeId) (scope : NodeDeliveryReplayScope) : Prog lang ℕ :=
  match scope.agentIds.map List.eraseDups with
  | none => do
    let recipients : List Recipient ← await (.roster nodeId scope.providerName none)
    drainRoster nodeId recipients
  | some [] => return 0
  | some wantedIds => do
    let sorted := wantedIds.insertionSort (· ≤ ·)
    let recipients ← rosterInChunks nodeId scope.providerName
      (slices d1SafeInQueryChunkSize sorted.length sorted)
    drainRoster nodeId (recipients.insertionSort fun x y => x.name ≤ y.name)

end Delivery
