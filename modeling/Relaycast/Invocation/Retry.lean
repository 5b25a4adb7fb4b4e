import Relaycast.Invocation.Dispatch

/-!
# Draining, retrying, detaching and completing

What happens to a spawn after its request: a node that is ready again drains its queue, a timeout,
a lost node or an unavailable handler places the spawn anew, a node that is gone is detached from
its work, and a provider reports the outcome.  Each of these acts on a snapshot of the row that it
has read earlier.
-/

namespace Invocation

open Relational Interleaving

/-- `ACTION_DISPATCH_TIMEOUT_MS`. -/
def actionDispatchTimeoutMs : Millis := 30000

/-- `failOpenInvocationRows` for one row: the slot that the row held when it was read goes back if
the update hits. -/
def failOpenInvocationRow (id : InvocationId) (error : String) (revision : Option ℕ) :
    Prog lang Unit := do
  let held : Option Row ← await (.heldRow id revision)
  match held.bind Row.hold with
  | none =>
    let _ : Option Row ← await (.write id (.failOpenInvocation error revision) .nothing)
    pure ()
  | some nodeId =>
    let failed : Option Row ← await
      (.write id (.failOpenInvocation error revision) (.takes nodeId))
    releaseWhen failed.isSome nodeId

/-! ## Draining a node's queue -/

/-- A drained row as `dispatchNodeInvocation` gets it. -/
def Row.drainArgs (r : Row) (nodeId : NodeId) (providerName : String) (now : Millis)
    (reservationHeld reservedForDrain : Bool) : DispatchArgs where
  invocationId := r.id
  nodeId := nodeId
  providerName := providerName
  action := r.input.capability
  actionId := r.actionId
  expectedActionId := r.actionId
  invocationOrigin := r.invocationOrigin
  pending := false
  retryAfterAt := some (now + actionDispatchTimeoutMs)
  reservationHeld := reservationHeld
  skipIncrementAttempts := r.dispatchedNodeId == some nodeId
  observed := ⟨.pending, r.retryAfterAt.map toDate, r.dispatchAttempts, r.dispatchedNodeId⟩
  preserveSpawnReservation := reservationHeld && !reservedForDrain
  observedSpawnReservedAt := r.spawnReservedAt
  expectedNodeLivenessRevision := none

/-- Is the row a spawn whose first send failed?  Its placed node is then the target. -/
def Row.isUnsent (r : Row) : Bool := r.actionId.isNone && r.dispatchedNodeId.isNone

/-- The node a drained row is for. -/
def Row.drainTarget (r : Row) (action : Option Action) : Option NodeId :=
  action.map Action.handlerNodeId <|> r.dispatchedNodeId <|>
    if r.isUnsent then r.handlerNodeId else none

/-- `remarkUnsent`. -/
def Row.remarkUnsent (r : Row) (nodeId : NodeId) : Prog lang (Option Row) :=
  if r.isUnsent then markUnsentNativeSpawn r.id nodeId else pure none

/-- A frame that was definitely not sent leaves the row drainable. -/
def Row.remarkUnlessSent (r : Row) (d : Dispatched) (nodeId : NodeId) : Prog lang (Option Row) :=
  if d.sent || d.sendOutcomeUnknown then pure none else r.remarkUnsent nodeId

/-- The dispatch of a drained row, and what follows from its outcome. -/
def drainDispatch (nodeId : NodeId) (r : Row) (providerName : String)
    (reservationHeld reservedForDrain : Bool) : Prog lang Bool := do
  let now : Millis ← await .dateNow
  let result ← dispatchNodeInvocation
    (r.drainArgs nodeId providerName now reservationHeld reservedForDrain)
  match result with
  | .error _ =>
    -- only the socket of a registered action throws, and its claim stands
    if reservedForDrain then do
      let _ : Unit ← await (.releaseNodeCapacity nodeId true)
      pure false
    else pure false
  | .ok d =>
    releaseWhen (!d.accepted && reservedForDrain) nodeId
    let _ ← r.remarkUnlessSent d nodeId
    pure d.accepted

/-- A drained row of native capacity for which no slot is left waits a little if the node is
ready. -/
def deferDrain (nodeId : NodeId) (r : Row) : Prog lang Bool := do
  let _ ← r.remarkUnsent nodeId
  let node : Option Node ← await (.getNode nodeId)
  if node.isNone then pure false
  else
    let ready : Bool ← await (.nodeReady nodeId)
    if ready then do
      let _ : Option Row ← await (.write r.id .deferDrain .nothing)
      pure false
    else pure false

/-- The provider a drained row goes to. -/
def drainProvider (nodeId : NodeId) (r : Row) (action shadow : Option Action) :
    Prog lang String :=
  match action with
  | some action => pure (action.handlerProvider.getD defaultProviderName)
  | none =>
    match shadow.bind Action.handlerProvider with
    | some providerName => pure providerName
    | none => do
      let name : Option String ← await (.capacityProviderName nodeId r.input.capability)
      pure (name.getD defaultProviderName)

/-- `claimUnsentNativeSpawn`, where the row is unsent: one drain wins the re-send. -/
def claimDrain (r : Row) : Prog lang Bool :=
  if r.isUnsent then do
    let row : Option Row ← await (.write r.id .claimUnsentNativeSpawn .nothing)
    pure row.isSome
  else pure true

/-- A drained row that is dispatched, with a slot for native capacity: the one it holds, or one
reserved now. -/
def drainClaimed (nodeId : NodeId) (r : Row) (providerName : String) (nativeSpawn : Bool) :
    Prog lang Bool :=
  if nativeSpawn && r.spawnReservedAt.isNone then do
    let reserved : Bool ← await (.reserveNodeCapacity nodeId)
    if reserved then drainDispatch nodeId r providerName true true else deferDrain nodeId r
  else drainDispatch nodeId r providerName nativeSpawn false

/-- One row of a drain. -/
def drainRow (nodeId : NodeId) (r : Row) (action : Option Action) : Prog lang Bool := do
  if r.isDeletedRegisteredAction then
    failOpenInvocationRow r.id "action_deleted" none
    pure false
  else
    if r.drainTarget action != some nodeId then pure false
    else
      let shadow : Option Action ← await (.fetchNodeAction nodeId r.input.capability)
      let nativeSpawn := (shadow.bind Action.handlerProvider).isNone
      let providerName ← drainProvider nodeId r action shadow
      let live : Bool ← await (.isHandlerConnectionLive nodeId providerName)
      if !live then pure false
      else
        let claimed ← claimDrain r
        if claimed then drainClaimed nodeId r providerName nativeSpawn else pure false

/-- The rows of a drain, one after the other; the result counts those that were dispatched. -/
def drainEach (nodeId : NodeId) : List (Row × Option Action) → Prog lang ℕ
  | [] => pure 0
  | (r, action) :: rest => do
    let drained ← drainRow nodeId r action
    let more ← drainEach nodeId rest
    pure ((if drained then 1 else 0) + more)

/-- `drainNodeInvocations`. -/
def drainNodeInvocations (nodeId : NodeId) (includeDeferred : Bool) : Prog lang ℕ := do
  let now : Millis ← await .dateNow
  let rows : List (Row × Option Action) ← await (.drainRows nodeId includeDeferred now)
  drainEach nodeId rows

/-! ## Placing a spawn anew -/

/-- The options of `rescheduleNodeInvocation`. -/
structure RescheduleOptions where
  allowAttemptedFallback : Bool
  retryAfterAt : Option Millis
  expectedNodeLivenessRevision : Option ℕ

/-- How a phase of the retry loop ends: with what the function returns, or without a candidate,
having rejected the nodes whose providers were unavailable. -/
inductive RetryOutcome
  | returned (accepted : Bool)
  | exhausted (rejected : List NodeId)

/-- A retried row as `dispatchNodeInvocation` gets it. -/
def Row.retryArgs (r : Row) (opts : RescheduleOptions) (nodeId : NodeId) (providerName : String)
    (actionId : Option ActionId) (reservationHeld : Bool) : DispatchArgs where
  invocationId := r.id
  nodeId := nodeId
  providerName := providerName
  action := r.input.capability
  actionId := actionId
  expectedActionId := r.actionId
  invocationOrigin := r.invocationOrigin
  pending := false
  retryAfterAt := opts.retryAfterAt
  reservationHeld := reservationHeld
  skipIncrementAttempts := false
  observed := observedInvocationClaim r
  preserveSpawnReservation := false
  observedSpawnReservedAt := none
  expectedNodeLivenessRevision := opts.expectedNodeLivenessRevision

/-- `attemptedNodeSet`. -/
def Row.attemptedNodeSet (r : Row) : List NodeId := r.attemptedNodeIds ++ r.dispatchedNodeId.toList

/-- A retry that has to wait for its node only moves the row there. -/
def queueRetry (r : Row) (opts : RescheduleOptions) (nodeId : NodeId) (providerName : String)
    (target : Option Action) : Prog lang Bool := do
  let now : Millis ← await .dateNow
  let args := r.retryArgs opts nodeId providerName none false
  let queued := exclusiveClaimWrite (args.claimArgs true) now
  let expectedAction :=
    if r.invocationOrigin = .registeredAction then r.actionId.map fun id => (id, r.input.capability)
    else none
  let accepted : Option Row ← await (.write r.id
    (.dispatchNodeAttempt
      { args.attempt true (if r.status.isOpen then queued.retryAfterAt else opts.retryAfterAt) with
        targetActionId := target.map Action.id }
      (if r.status.isOpen then some (args.claim true) else none) expectedAction)
    .nothing)
  if accepted.isNone && r.invocationOrigin == .registeredAction then do
    let _ ← settleDeletedRegisteredAction r.id opts.expectedNodeLivenessRevision
    pure false
  else pure accepted.isSome

/-- A retry on native capacity of a node that is ready. -/
def dispatchRetry (r : Row) (opts : RescheduleOptions) (nodeId : NodeId) (providerName : String)
    (target : Option Action) : Prog lang (Option Bool) := do
  let result ← dispatchNodeInvocation
    (r.retryArgs opts nodeId providerName (target.map Action.id) true)
  match result with
  | .error _ =>
    -- only the socket of a registered action throws, and its claim stands
    let _ : Unit ← await (.releaseNodeCapacity nodeId true)
    pure none
  | .ok d =>
    releaseWhen (!d.accepted && !d.sent) nodeId
    pure (some d.accepted)

/-- One phase of the retry loop.  Each round that does not end it excludes one node more, so with
more rounds than there are nodes the bound is never reached. -/
def retryPhase (r : Row) (opts : RescheduleOptions) :
    ℕ → List NodeId → List NodeId → Prog lang RetryOutcome
  | 0, _, rejected => pure (.exhausted rejected)
  | rounds + 1, excluded, rejected => do
    match ← claimSpawnNode ⟨r.input, r.callerId, none, excluded ++ rejected⟩ with
    | .error _ => pure (.exhausted rejected)
    | .ok placement =>
      let target : Option Action ← await (.fetchNodeAction placement.nodeId r.input.capability)
      match target, target.bind Action.handlerProvider with
      | some action, some providerName =>
        releasePlacement placement
        let result ← dispatchNodeProviderInvocation
          (r.retryArgs opts placement.nodeId providerName (some action.id) false)
          (if r.status.isOpen then some (observedInvocationClaim r) else none) action.queue false
        match result with
        | .error _ => pure (.exhausted rejected)
        | .ok d =>
          if d.providerUnavailable then
            retryPhase r opts rounds excluded (rejected ++ [placement.nodeId])
          else pure (.returned d.dispatched.accepted)
      | target, _ =>
        let name : Option String ←
          await (.capacityProviderName placement.nodeId r.input.capability)
        let providerName := name.getD defaultProviderName
        if placement.queued then
          let accepted ← queueRetry r opts placement.nodeId providerName target
          pure (.returned accepted)
        else
          match ← dispatchRetry r opts placement.nodeId providerName target with
          | none => pure (.exhausted rejected)
          | some accepted => pure (.returned accepted)

/-- The phases of the retry loop: first without the nodes that were tried, then with them. -/
def retryPhases (r : Row) (opts : RescheduleOptions) (rounds : ℕ) :
    List (List NodeId) → List NodeId → Prog lang RetryOutcome
  | [], rejected => pure (.exhausted rejected)
  | excluded :: rest, rejected => do
    match ← retryPhase r opts rounds excluded rejected with
    | .returned accepted => pure (.returned accepted)
    | .exhausted rejected => retryPhases r opts rounds rest rejected

/-- The slot a retried spawn holds goes back once: its marker is cleared first. -/
def releaseHold (r : Row) (opts : RescheduleOptions) : Prog lang Unit :=
  match r.dispatchedNodeId, r.spawnReservedAt with
  | some nodeId, some heldAt => do
    let released : Option Row ← await (.write r.id
      (.clearHold r.tokens heldAt opts.expectedNodeLivenessRevision) (.takes nodeId))
    releaseWhen released.isSome nodeId
  | _, _ => pure ()

/-- The shadow of native capacity on the node of a retried spawn. -/
def retryShadow (r : Row) : Prog lang (Option Action) :=
  match r.dispatchedNodeId with
  | some nodeId => await (.fetchNodeAction nodeId r.input.capability)
  | none => pure none

/-- The end of `rescheduleNodeInvocation`: place the spawn anew, or leave it unplaced. -/
def rescheduleUnshadowed (r : Row) (opts : RescheduleOptions) (rounds : ℕ) :
    Prog lang Bool := do
  let candidates :=
    if opts.allowAttemptedFallback then [r.attemptedNodeSet, []] else [r.attemptedNodeSet]
  match ← retryPhases r opts rounds candidates [] with
  | .returned accepted => pure accepted
  | .exhausted [] =>
    let _ : Option Row ← await (.write r.id
      (.resetUnplaced r.tokens opts.retryAfterAt opts.expectedNodeLivenessRevision) .nothing)
    pure false
  | .exhausted (_ :: _) =>
    let _ ← failInvocationForUnavailableProvider r.id opts.expectedNodeLivenessRevision
    pure false

/-- `rescheduleNodeInvocation`. -/
def rescheduleNodeInvocation (r : Row) (opts : RescheduleOptions) (rounds : ℕ) :
    Prog lang Bool := do
  if r.isAcceptedDeletedRegisteredAction then pure false
  else if r.isDeletedRegisteredAction then
    failOpenInvocationRow r.id "action_deleted" opts.expectedNodeLivenessRevision
    pure false
  else
    releaseHold r opts
    let shadow ← retryShadow r
    if shadow.isSome then do
      let _ : Option Row ← await
        (.write r.id (.resetShadowed opts.expectedNodeLivenessRevision) .nothing)
      pure false
    else rescheduleUnshadowed r opts rounds

/-- Reschedule each row, with the deadline and the generation `opts` gives it. -/
def rescheduleEach (opts : Row → Millis → RescheduleOptions) (rounds : ℕ) :
    List Row → Prog lang ℕ
  | [] => pure 0
  | r :: rest => do
    let now : Millis ← await .dateNow
    let rescheduled ← rescheduleNodeInvocation r (opts r now) rounds
    let more ← rescheduleEach opts rounds rest
    pure ((if rescheduled then 1 else 0) + more)

/-- `rescheduleInvocationsForLostNode`. -/
def rescheduleInvocationsForLostNode (nodeId : NodeId) (claimRevision : Option ℕ) (rounds : ℕ) :
    Prog lang ℕ := do
  let rows : List Row ← await (.openRowsOn nodeId claimRevision)
  rescheduleEach
    (fun r now => ⟨false, some (nextRetryAfter (r.dispatchAttempts + 1) now),
      claimRevision.map fun _ => r.nodeLivenessRevision⟩) rounds rows

/-- `sweepTimedOutInvocations`, from where it selects the invocations to reschedule. -/
def sweepTimedOutInvocations (timeoutMs : Millis) (rounds : ℕ) : Prog lang ℕ := do
  let now : Millis ← await .dateNow
  let rows : List Row ← await (.timedOutRows (now - timeoutMs))
  let pendingRows : List Row ← await (.duePendingRows now)
  rescheduleEach
    (fun r now => if r.status = .pending then ⟨true, none, none⟩
      else ⟨false, some (nextRetryAfter (r.dispatchAttempts + 1) now), none⟩)
    rounds (rows ++ pendingRows)

/-! ## Detaching a lost node -/

/-- What a detach expects on the row: the slot that its snapshot showed. -/
def Row.detachAccounts (r : Row) (nodeId : NodeId) : Accounts :=
  if r.spawnReservedAt.isSome then .takes nodeId else .nothing

/-- Send each row back to pending and release the slot that its snapshot showed. -/
def detachEach (nodeId : NodeId) : List Row → Prog lang ℕ
  | [] => pure 0
  | r :: rest =>
    if r.isDeletedRegisteredAction || r.isAcceptedDeletedRegisteredAction then
      detachEach nodeId rest
    else do
      let reset : Option Row ← await (.write r.id
        (.detach nodeId r.nodeLivenessRevision r.dispatchAttempts) (r.detachAccounts nodeId))
      releaseWhen (reset.isSome && r.spawnReservedAt.isSome) nodeId
      let more ← detachEach nodeId rest
      pure ((if reset.isSome then 1 else 0) + more)

/-- `detachInvocationsFromLostNode`. -/
def detachInvocationsFromLostNode (nodeId : NodeId) (claimRevision : ℕ) : Prog lang ℕ := do
  let rows : List Row ← await (.openRowsOn nodeId (some claimRevision))
  detachEach nodeId rows

/-! ## Completion -/

/-- The outcome a provider reports. -/
structure Completion where
  output : Option String
  error : Option String

/-- The end of `completeNodeInvocation`: close the row, and release the slot that the snapshot
`existing` showed. -/
def closeInvocation (nodeId : NodeId) (providerName : String) (existing : Row)
    (data : Completion) : Prog lang (Option Row) := do
  let updated : Option Row ← await (.write existing.id
    (.completeNodeInvocation nodeId providerName data.output data.error)
    (existing.detachAccounts nodeId))
  releaseWhen (updated.isSome && existing.spawnReservedAt.isSome) nodeId
  pure updated

/-- `completeNodeInvocation`. -/
def completeNodeInvocation (nodeId : NodeId) (providerName : String) (id : InvocationId)
    (data : Completion) (rounds : ℕ) : Prog lang (Option Row) := do
  let existing : Option Row ← await (.completionRow id providerName)
  match existing with
  | none => pure none
  | some existing =>
    if existing.dispatchedNodeId.any (· != nodeId) then pure none
    else if !existing.status.isOpen then pure none
    else if data.error = some "handler_unavailable" then
      let _ : Unit ← await (.handlersDown nodeId)
      let now : Millis ← await .dateNow
      let rescheduled ← rescheduleNodeInvocation existing
        ⟨false, some (nextRetryAfter (existing.dispatchAttempts + 1) now), none⟩ rounds
      if rescheduled then pure none else closeInvocation nodeId providerName existing data
    else closeInvocation nodeId providerName existing data

end Invocation
