import Mathlib.Data.List.Sort
import Relaycast.Delivery.Tables
import Relaycast.LongPoll.Waiters
import Relaycast.Reactive.Run

/-!
# Long polls

`GET /v1/deliveries?wait=` lists the deliveries of an agent, and waits while there are none.  Every
creation of deliveries is followed, at some time or never, by a notification of their agents; that
is what a waiting request is woken by.  Between its reading and its waiting anything can happen.

A request never waits past a delivery that was announced (`no_lost_wakeup`): one that is announced
before the request waits is remembered, since no request that is still to wait began to read longer
ago than a minute.  A delivery that failed and is deferred becomes active without being announced.
-/

namespace LongPoll

open Delivery (DeliveryId DeliveryStatus)
open Script Relational Reactive

/-- A row of `deliveries`: `task` is the routing call that announces it, and `deferred` says that it
was made active again. -/
structure DeliveryRow where
  id : DeliveryId
  workspaceId : String
  agentId : String
  status : DeliveryStatus
  expiresAt : Option Seconds
  createdAt : Seconds
  task : ℕ
  deferred : Bool
  deriving DecidableEq

/-- What is created of a delivery. -/
structure NewDelivery where
  id : DeliveryId
  agentId : String
  expiresAt : Option Seconds
  createdAt : Seconds

/-- `ListDeliveriesQuery`, without `wait`. -/
structure Query where
  status : Option DeliveryStatus
  limit : Option ℕ
  deriving DecidableEq

/-- `ListDeliveriesQuerySchema`. -/
def Query.valid (query : Query) (wait : Option ℕ) : Bool :=
  query.limit.all (fun limit => decide (0 < limit ∧ limit ≤ 200)) &&
    wait.all fun wait => decide (wait ≤ MAX_DELIVERY_WAIT_MS)

/-- Where a request is: about to read, reading since an instant, holding what it read, waiting, or
answered. -/
inductive Phase
  | woken
  | reading (since : Millis)
  | listed (since : Millis) (result : List DeliveryId)
  | parked
  | answered (result : List DeliveryId)
  deriving DecidableEq

/-- A request for the deliveries of an agent. -/
structure Poll where
  workspaceId : String
  agentId : String
  query : Query
  deadline : Millis
  aborted : Bool
  phase : Phase
  deriving DecidableEq

/-- The key a request waits under. -/
def Poll.key (poll : Poll) : String := waiterKey poll.workspaceId poll.agentId

/-- The routing call after a creation, with the time at which it notified. -/
structure RoutingCall where
  workspaceId : String
  agentIds : List String
  notified : Option Millis
  deriving DecidableEq

/-- The process, and the rows that it polls. -/
structure System where
  clock : Millis
  deliveries : List DeliveryRow
  tasks : List RoutingCall
  waiters : DeliveryWaiters
  polls : List Poll

/-- What can happen. -/
inductive Event
  | tick (now : Millis)
  | create (workspaceId : String) (created : List NewDelivery)
  | notify (task : ℕ)
  | write (id : DeliveryId) (status : DeliveryStatus)
  | remove (id : DeliveryId)
  | request (workspaceId agentId : String) (query : Query) (wait : Option ℕ)
  | read (poll : PollId)
  | list (poll : PollId)
  | resume (poll : PollId)
  | fire (poll : PollId)
  | abort (poll : PollId)
  | close

/-- `a.createdAt ≤ b.createdAt`, and the ids decide between equals. -/
def createdLe (a b : DeliveryRow) : Prop :=
  a.createdAt < b.createdAt ∨ a.createdAt = b.createdAt ∧ a.id ≤ b.id

instance : DecidableRel createdLe := fun a b =>
  inferInstanceAs (Decidable (a.createdAt < b.createdAt ∨ a.createdAt = b.createdAt ∧ a.id ≤ b.id))

/-- Is the row one that the query of the agent selects? -/
def selects (now : Millis) (workspaceId agentId : String) (query : Query) (r : DeliveryRow) :
    Bool :=
  r.workspaceId == workspaceId && r.agentId == agentId &&
    match query.status with
    | some status => r.status == status
    | none => r.status.isActive && r.expiresAt.all fun at' => decide (toSeconds now < at')

/-- `listDeliveries`. -/
def listDeliveries (rows : List DeliveryRow) (now : Millis) (workspaceId agentId : String)
    (query : Query) : List DeliveryId :=
  let limit := min (max (query.limit.getD 100) 1) 200
  (((rows.filter (selects now workspaceId agentId query)).insertionSort createdLe).take limit).map
    DeliveryRow.id

namespace System

/-- Nothing has happened. -/
def start : System := ⟨0, [], [], .start, []⟩

variable (s : System)

/-- A request goes on. -/
def setPhase (p : PollId) (phase : Phase) : System :=
  { s with polls := s.polls.modify p fun poll => { poll with phase } }

/-- The rows of a creation, and the routing call that will announce them. -/
def create (workspaceId : String) (created : List NewDelivery) : System :=
  { s with
    deliveries := s.deliveries ++ created.map fun d =>
      ⟨d.id, workspaceId, d.agentId, .queued, d.expiresAt, d.createdAt, s.tasks.length, false⟩
    tasks := s.tasks ++ [⟨workspaceId, created.map NewDelivery.agentId, none⟩] }

/-- The waits of some requests are resolved. -/
def resolve (ids : List PollId) (phase : Phase) : List Poll :=
  s.polls.mapIdx fun p poll => if p ∈ ids then { poll with phase } else poll

/-- `notifyDeliveryWaiters`. -/
def notify (task : ℕ) (call : RoutingCall) : System :=
  { s with
    tasks := s.tasks.set task { call with notified := some s.clock }
    waiters := s.waiters.notify s.clock call.workspaceId call.agentIds
    polls := s.resolve ((DeliveryWaiters.notifyKeys call.workspaceId call.agentIds).flatMap
      s.waiters.waiting) .woken }

/-- A status is written; a row that becomes active is remembered as such. -/
def write (id : DeliveryId) (status : DeliveryStatus) : System :=
  { s with deliveries := s.deliveries.map fun r =>
      if r.id = id then
        { r with
          status
          deferred := r.deferred || (!r.status.isActive && status.isActive) }
      else r }

/-- A request that holds what it read answers with it, or waits. -/
def resume (p : PollId) (poll : Poll) (since : Millis) (result : List DeliveryId) : System :=
  let remaining := poll.deadline - s.clock
  if result ≠ [] ∨ remaining = 0 then s.setPhase p (.answered result)
  else
    match s.waiters.wait ⟨poll.workspaceId, poll.agentId, since, remaining, poll.aborted⟩ p with
    | .inl .timeout => s.setPhase p (.answered result)
    | .inl .notified => s.setPhase p .woken
    | .inr waiters => { s with waiters }.setPhase p .parked

/-- A request no longer waits, and answers that there is nothing. -/
def finish (p : PollId) (poll : Poll) : System :=
  { s with waiters := s.waiters.finish poll.key p }.setPhase p (.answered [])

/-- The client of a request is gone. -/
def abort (p : PollId) (poll : Poll) : System :=
  let s := { s with polls := s.polls.modify p fun poll => { poll with aborted := true } }
  if poll.phase = .parked then s.finish p poll else s

/-- All that wait are answered. -/
def close : System :=
  { s with
    waiters := s.waiters.close
    polls := s.resolve (s.waiters.waiters.entries.flatMap Prod.snd) (.answered []) }

/-- One event: none where it cannot happen. -/
def step : Event → Option System
  | .tick now => some { s with clock := now }
  | .create workspaceId created =>
    if created = [] then none else some (s.create workspaceId created)
  | .notify task =>
    match s.tasks[task]? with
    | some call => if call.notified = none then some (s.notify task call) else none
    | none => none
  | .write id status => some (s.write id status)
  | .remove id => some { s with deliveries := s.deliveries.filter (·.id != id) }
  | .request workspaceId agentId query wait =>
    if query.valid wait then
      some { s with polls := s.polls ++
        [⟨workspaceId, agentId, query, s.clock + wait.getD 0, false, .woken⟩] }
    else none
  | .read p =>
    match s.polls[p]? with
    | some poll => if poll.phase = .woken then some (s.setPhase p (.reading s.clock)) else none
    | none => none
  | .list p =>
    match s.polls[p]? with
    | some poll =>
      match poll.phase with
      | .reading since => some (s.setPhase p (.listed since
          (listDeliveries s.deliveries since poll.workspaceId poll.agentId poll.query)))
      | _ => none
    | none => none
  | .resume p =>
    match s.polls[p]? with
    | some poll =>
      match poll.phase with
      | .listed since result => some (s.resume p poll since result)
      | _ => none
    | none => none
  | .fire p =>
    match s.polls[p]? with
    | some poll =>
      if poll.phase = .parked ∧ poll.deadline ≤ s.clock then some (s.finish p poll) else none
    | none => none
  | .abort p =>
    match s.polls[p]? with
    | some poll => some (s.abort p poll)
    | none => none
  | .close => some s.close

end System

/-- The clock does not run backwards. -/
def Forward (s : System) : Event → Prop
  | .tick now => s.clock ≤ now
  | _ => True

instance : ∀ s e, Decidable (Forward s e)
  | s, .tick now => inferInstanceAs (Decidable (s.clock ≤ now))
  | _, .create .. | _, .notify _ | _, .write .. | _, .remove _ | _, .request .. | _, .read _
  | _, .list _ | _, .resume _ | _, .fire _ | _, .abort _ | _, .close => isTrue trivial

end LongPoll
