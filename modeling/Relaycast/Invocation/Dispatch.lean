import Relaycast.Invocation.Statements

/-!
# Placing and dispatching a spawn

`claimSpawnNode` reserves a slot on a node; `dispatchNodeInvocation` claims the invocation for a
provider of that node, hands the frame to its socket, and takes the claim back if the frame was
not accepted; `dispatchSpawn` is the path from a request to a sent frame.

No database statement fails here, so a restore always commits and `reservationStillHeld` does not
arise.
-/

namespace Invocation

open Relational Interleaving

/-- `codedError`. -/
structure CodedError where
  message : String
  code : String
  status : ℕ
  deriving DecidableEq

/-- What a function of this area throws: a coded error, a plain one, or what a provider's socket
threw. -/
inductive Thrown
  | coded (error : CodedError)
  | plain (message : String)
  | send
  deriving DecidableEq

/-! ## Placement -/

/-- `PlacementRequest`. -/
structure PlacementRequest where
  input : SpawnInput
  callerId : Option AgentId
  preferredNodeId : Option NodeId
  excludeNodeIds : List NodeId

/-- `PlacementResult`. -/
structure Placement where
  nodeId : NodeId
  queued : Bool

namespace PlacementRequest

variable (request : PlacementRequest)

/-- Does the node provide the capability, and may it be used? -/
def admits (node : Node) : Bool :=
  node.capabilities.contains request.input.capability && !request.excludeNodeIds.contains node.id

/-- The error of a node that this request has been on already. -/
def unavailableForRetry (node : Node) : CodedError :=
  ⟨"Node \"" ++ node.name ++ "\" is unavailable for retry", "handler_unavailable", 503⟩

/-- The error of a node without the capability, which the source calls by its name. -/
def capabilityMismatch (name : String) : CodedError :=
  ⟨"Node \"" ++ name ++ "\" does not provide " ++ request.input.capability, "capability_mismatch",
    409⟩

/-- `chooseLiveCandidate`: a node that may be used, reserved if it is ready. -/
def chooseLiveCandidate (node : Node) : Prog lang (Except CodedError (Option Placement)) :=
  if !request.admits node then pure (.ok none)
  else do
    let ready : Bool ← await (.nodeReady node.id)
    if !ready then pure (.ok (some ⟨node.id, true⟩))
    else
      let reserved : Bool ← await (.reserveNodeCapacity node.id)
      if reserved then pure (.ok (some ⟨node.id, false⟩))
      else
        pure (.error
          ⟨"Node \"" ++ node.name ++ "\" is at capacity", "handler_unavailable", 503⟩)

/-- A spawn pinned to a node takes that node or none. -/
def placeOn (node : Node) (name : String) : Prog lang (Except CodedError Placement) := do
  match ← request.chooseLiveCandidate node with
  | .error e => pure (.error e)
  | .ok (some placement) => pure (.ok placement)
  | .ok none =>
    if request.excludeNodeIds.contains node.id then pure (.error (unavailableForRetry node))
    else if !node.capabilities.contains request.input.capability then
      pure (.error (request.capabilityMismatch name))
    else
      let ready : Bool ← await (.nodeReady node.id)
      pure (.ok ⟨node.id, !ready⟩)

/-- The first of the eligible nodes that has room when it is asked. -/
def reserveFirst : List Node → Prog lang (Except CodedError Placement)
  | [] =>
    pure (.error
      ⟨"No live node provides " ++ request.input.capability, "handler_unavailable", 503⟩)
  | node :: rest => do
    let reserved : Bool ← await (.reserveNodeCapacity node.id)
    if reserved then pure (.ok ⟨node.id, false⟩) else reserveFirst rest

/-- Placement by the target the input names. -/
def placeByTarget : Prog lang (Except CodedError Placement) :=
  match request.input.target with
  | .self =>
    match request.callerId with
    | none =>
      pure (.error
        ⟨"target \"self\" requires an agent caller", "placement_self_requires_agent", 400⟩)
    | some callerId => do
      let location : Option NodeId ← await (.callerLocation callerId)
      match location with
      | none =>
        pure (.error ⟨"caller is not attached to a node", "placement_self_unavailable", 409⟩)
      | some nodeId =>
        let node : Option Node ← await (.getNode nodeId)
        match node with
        | none => pure (.error ⟨"caller node was not found", "node_not_found", 404⟩)
        | some node => request.placeOn node node.name
  | .node name => do
    let node : Option Node ← await (.getNodeByName name)
    match node with
    | none => pure (.error ⟨"Node \"" ++ name ++ "\" not found", "node_not_found", 404⟩)
    | some node => request.placeOn node name
  | .anywhere => do
    let eligible : List Node ←
      await (.eligibleNodes request.input.capability request.excludeNodeIds)
    request.reserveFirst eligible

end PlacementRequest

/-- `claimSpawnNode`. -/
def claimSpawnNode (request : PlacementRequest) : Prog lang (Except CodedError Placement) :=
  match request.preferredNodeId with
  | none => request.placeByTarget
  | some preferredNodeId => do
    let node : Option Node ← await (.getNode preferredNodeId)
    match node with
    | none => request.placeByTarget
    | some node =>
      match ← request.chooseLiveCandidate node with
      | .error e => pure (.error e)
      | .ok (some placement) => pure (.ok placement)
      | .ok none =>
        if request.excludeNodeIds.contains node.id then
          pure (.error (PlacementRequest.unavailableForRetry node))
        else if node.capabilities.contains request.input.capability then
          let ready : Bool ← await (.nodeReady node.id)
          pure (.ok ⟨node.id, !ready⟩)
        else request.placeByTarget

/-! ## Dispatch -/

/-- The tokens and the node a sender has observed on the row it claims. -/
structure Observed where
  claimStatus : Status
  retryAfterAt : Option Millis
  dispatchAttempts : ℕ
  dispatchedNodeId : Option NodeId

/-- What a sender that passes no observation claims: a fresh row. -/
def Observed.fresh : Observed := ⟨.pending, none, 0, none⟩

/-- `observedInvocationClaim`. -/
def observedInvocationClaim (r : Row) : Observed :=
  if r.status.isOpen then
    ⟨r.status, r.retryAfterAt.map toDate, r.dispatchAttempts, r.dispatchedNodeId⟩
  else .fresh

/-- The arguments of `dispatchNodeInvocation`. -/
structure DispatchArgs where
  invocationId : InvocationId
  nodeId : NodeId
  providerName : String
  action : String
  actionId : Option ActionId
  expectedActionId : Option ActionId
  invocationOrigin : Origin
  pending : Bool
  retryAfterAt : Option Millis
  reservationHeld : Bool
  skipIncrementAttempts : Bool
  observed : Observed
  preserveSpawnReservation : Bool
  observedSpawnReservedAt : Option Seconds
  expectedNodeLivenessRevision : Option ℕ

/-- What `dispatchNodeInvocation` returns. -/
structure Dispatched where
  accepted : Bool
  pending : Bool
  sent : Bool
  sendOutcomeUnknown : Bool
  settled : Option Row

/-- Nothing was claimed, or the claim was taken back. -/
def Dispatched.rejected : Dispatched := ⟨false, false, false, false, none⟩

namespace DispatchArgs

variable (args : DispatchArgs)

/-- The columns the claim sets. -/
def attempt (pending : Bool) (retryAfterAt : Option Millis) : Attempt where
  nodeId := args.nodeId
  providerName := args.providerName
  pending := pending
  retryAfterAt := retryAfterAt
  reservationHeld := args.reservationHeld
  skipIncrementAttempts := args.skipIncrementAttempts
  targetActionId := none
  expectedNodeLivenessRevision := args.expectedNodeLivenessRevision

/-- The tokens the claim pins and those it asks for. -/
def claimArgs (pending : Bool) : ClaimArgs where
  observedStatus := args.observed.claimStatus
  observedRetryAfterAt := args.observed.retryAfterAt
  observedDispatchAttempts := args.observed.dispatchAttempts
  nextStatus := if pending then .pending else .dispatched
  nextRetryAfterAt := args.retryAfterAt
  incrementAttempts := !args.skipIncrementAttempts

/-- The compare of a native spawn's claim. -/
def claim (pending : Bool) : Claim where
  tokens := (args.claimArgs pending).observed
  spawnReservedAt :=
    if args.preserveSpawnReservation then args.observedSpawnReservedAt else none

/-- The claim as its restore undoes it. -/
def unsentClaim (w : ClaimWrite) : UnsentClaim where
  dispatchAttempts := w.dispatchAttempts
  retryAfterAt := w.retryAfterAt
  restoreRetryAfterAt := args.observed.retryAfterAt
  restoreDispatchAttempts := args.observed.dispatchAttempts
  restoreDispatchedNodeId := args.observed.dispatchedNodeId
  restoreSpawnReservedAt :=
    if args.preserveSpawnReservation then args.observedSpawnReservedAt else none

/-- The hold the caller expects on the row when it claims it. -/
def claimAccounts : Accounts :=
  if args.preserveSpawnReservation then .reuses args.nodeId else .nothing

/-- The hold the caller expects on the row when it takes the claim back. -/
def restoreAccounts : Accounts :=
  if args.preserveSpawnReservation then .reuses args.nodeId
  else if args.reservationHeld then .returns args.nodeId
  else .nothing

/-- The hold the caller expects on a row it fails after a handoff: one that it reserved itself,
since it releases no other. -/
def settleAccounts : Accounts :=
  if args.reservationHeld && !args.preserveSpawnReservation then .returns args.nodeId
  else .nothing

end DispatchArgs

/-- `settleDeletedRegisteredAction`. -/
def settleDeletedRegisteredAction (id : InvocationId) (revision : Option ℕ) :
    Prog lang (Option Row) := do
  let failed : Option Row ← await (.write id (.settleDeletedRegisteredAction revision) .nothing)
  match failed with
  | some row => pure (some row)
  | none => await (.getInvocation id)

/-- `settleRegisteredActionSendFailure`. -/
def settleRegisteredActionSendFailure (args : DispatchArgs) (actionId : ActionId)
    (dispatchAttempts : ℕ) : Prog lang (Option Row) := do
  let failed : Option Row ← await (.write args.invocationId
    (.settleRegisteredActionSendFailure args.nodeId args.providerName actionId dispatchAttempts)
    args.settleAccounts)
  match failed with
  | some row => pure (some row)
  | none => settleDeletedRegisteredAction args.invocationId none

/-- `sendAuthorizedActionToProvider` of a registered action: the socket's owner records the
acceptance and hands the frame over. -/
def sendAuthorizedActionToProvider (args : DispatchArgs) (actionId : ActionId)
    (invocationActionName : String) (dispatchAttempt : ℕ) : Prog lang SendOutcome := do
  let accepted : Option Row ← await (.write args.invocationId
    (.acceptRegisteredAction args.nodeId args.providerName actionId invocationActionName
      args.action dispatchAttempt) .nothing)
  if accepted.isNone then pure .refused
  else await (.sendToProvider args.nodeId args.providerName args.invocationId)

/-- The dispatch of a spawn bound to a registered action, whose handoff is its claim. -/
def dispatchRegistered (args : DispatchArgs) (pending : Bool) :
    Prog lang (Except Thrown Dispatched) :=
  match args.expectedActionId <|> args.actionId with
  | none => do
    let settled ← settleDeletedRegisteredAction args.invocationId args.expectedNodeLivenessRevision
    pure (.ok { Dispatched.rejected with settled := settled })
  | some expectedActionId => do
    let claimed : Option Row ← await (.write args.invocationId
      (.claimRegisteredActionHandoff
        { args.attempt pending args.retryAfterAt with targetActionId := args.actionId }
        expectedActionId args.action)
      args.claimAccounts)
    match claimed with
    | none =>
      let settled ←
        settleDeletedRegisteredAction args.invocationId args.expectedNodeLivenessRevision
      pure (.ok { Dispatched.rejected with settled := settled })
    | some row =>
      let actionId := row.actionId.getD expectedActionId
      match ← sendAuthorizedActionToProvider args actionId row.actionName row.dispatchAttempts with
      | .sent => pure (.ok ⟨true, pending, true, false, none⟩)
      | .refused =>
        let settled ← settleRegisteredActionSendFailure args actionId row.dispatchAttempts
        pure (.ok { Dispatched.rejected with settled := settled })
      -- the claim stays in place for the keyed replay
      | .threw => pure (.error .send)

/-- The dispatch of a native spawn: claim, send, and take the claim back if the frame was not
accepted. -/
def dispatchNative (args : DispatchArgs) (pending : Bool) (w : ClaimWrite) :
    Prog lang Dispatched := do
  let claimed : Option Row ← await (.write args.invocationId
    (.dispatchNodeAttempt (args.attempt pending w.retryAfterAt) (some (args.claim pending)) none)
    args.claimAccounts)
  if claimed.isNone then pure .rejected
  else
    let outcome : SendOutcome ←
      await (.sendToProvider args.nodeId args.providerName args.invocationId)
    match outcome with
    | .sent => pure ⟨true, pending, true, false, none⟩
    | .refused =>
      let _ : Option Row ← await (.write args.invocationId
        (.restoreUnsentSpawnClaim (args.unsentClaim w)) args.restoreAccounts)
      pure .rejected
    | .threw =>
      let _ : Option Row ← await (.write args.invocationId
        (.restoreUnsentSpawnClaim (args.unsentClaim w)) args.restoreAccounts)
      pure { Dispatched.rejected with sendOutcomeUnknown := true }

/-- `dispatchNodeInvocation` of a spawn. -/
def dispatchNodeInvocation (args : DispatchArgs) : Prog lang (Except Thrown Dispatched) := do
  let snapshotted : Option Row ← await (.write args.invocationId
    (.snapshotInvocationHandlerNode args.nodeId args.expectedNodeLivenessRevision) .nothing)
  if snapshotted.isNone then pure (.ok .rejected)
  else
    let connectedBefore : Bool ← await (.isProviderConnected args.nodeId args.providerName)
    let pending := args.pending || !connectedBefore
    let now : Millis ← await .dateNow
    if args.invocationOrigin = .registeredAction then dispatchRegistered args pending
    else
      let dispatched ←
        dispatchNative args pending (exclusiveClaimWrite (args.claimArgs pending) now)
      pure (.ok dispatched)

/-- Give a slot back if it is owed. -/
def releaseWhen (owed : Bool) (nodeId : NodeId) : Prog lang Unit :=
  if owed then await (.releaseNodeCapacity nodeId false) else pure ()

/-- What `dispatchNodeProviderInvocation` returns. -/
structure ProviderDispatched where
  dispatched : Dispatched
  providerUnavailable : Bool

/-- `failInvocationForUnavailableProvider`. -/
def failInvocationForUnavailableProvider (id : InvocationId) (revision : Option ℕ) :
    Prog lang (Option Row) :=
  await (.write id (.failOpenInvocation "handler_unavailable" revision) .nothing)

/-- `dispatchNodeProviderInvocation`: dispatch to a named provider, which queues or rejects the
spawn while it is offline. -/
def dispatchNodeProviderInvocation (args : DispatchArgs) (observed : Option Observed)
    (queue failIfUnavailable : Bool) : Prog lang (Except Thrown ProviderDispatched) := do
  let live : Bool ← await (.isNodeProviderLive args.nodeId args.providerName)
  if !live then
    if !queue then
      releaseWhen args.reservationHeld args.nodeId
      if !failIfUnavailable then pure (.ok ⟨.rejected, true⟩)
      else
        let _ ← failInvocationForUnavailableProvider args.invocationId
          args.expectedNodeLivenessRevision
        pure (.error (.coded
          ⟨"Provider \"" ++ args.providerName ++ "\" is offline for action \"" ++ args.action ++
            "\"", "handler_unavailable", 503⟩))
    else
      let expectedActionId :=
        if args.invocationOrigin = .registeredAction then args.expectedActionId <|> args.actionId
        else none
      let accepted : Option Row ← await (.write args.invocationId
        (.dispatchNodeAttempt
          { args.attempt true none with targetActionId := args.actionId } none
          (expectedActionId.map fun id => (id, args.action)))
        args.claimAccounts)
      if accepted.isNone && args.invocationOrigin == .registeredAction then
        let settled ←
          settleDeletedRegisteredAction args.invocationId args.expectedNodeLivenessRevision
        pure (.ok ⟨{ Dispatched.rejected with settled := settled }, false⟩)
      else pure (.ok ⟨⟨accepted.isSome, true, false, false, none⟩, false⟩)
  else
    let observed ← match observed with
      | some observed => pure observed
      | none => do
        let claimRow : Option Row ← await (.getInvocation args.invocationId)
        pure ((claimRow.map observedInvocationClaim).getD .fresh)
    let dispatched ← dispatchNodeInvocation { args with observed := observed }
    pure (dispatched.map fun d => ⟨d, false⟩)

/-! ## Spawn requests -/

/-- `markUnsentNativeSpawn`. -/
def markUnsentNativeSpawn (id : InvocationId) (nodeId : NodeId) : Prog lang (Option Row) :=
  await (.write id (.markUnsentNativeSpawn nodeId) .nothing)

/-- Mark a spawn whose frame was definitely not sent. -/
def markUnlessSent (d : Dispatched) (id : InvocationId) (nodeId : NodeId) :
    Prog lang (Option Row) :=
  if d.sent || d.sendOutcomeUnknown then pure none else markUnsentNativeSpawn id nodeId

/-- A spawn request; `keyed` says that the id is that of an idempotency claim. -/
structure SpawnArgs where
  invocationId : InvocationId
  keyed : Bool
  input : SpawnInput
  callerId : Option AgentId
  targetNodeId : Option NodeId
  bypassShadow : Bool

/-- What `dispatchSpawn` returns: the acknowledgement of a claim another request has made, of an
invocation that is settled already, or of this dispatch. -/
inductive SpawnResult
  | replayed
  | settled (row : Row)
  | dispatched (nodeId : NodeId) (dispatchedNodeId : Option NodeId) (status : Status)

/-- `spawnResult`. -/
def spawnResult (nodeId : NodeId) (d : Dispatched) : SpawnResult :=
  .dispatched nodeId (if d.accepted then some nodeId else none)
    (if d.accepted && !d.pending then .dispatched else .pending)

/-- The arguments of a first dispatch. -/
def SpawnArgs.dispatchArgs (args : SpawnArgs) (nodeId : NodeId) (providerName : String) :
    DispatchArgs where
  invocationId := args.invocationId
  nodeId := nodeId
  providerName := providerName
  action := args.input.capability
  actionId := none
  expectedActionId := none
  invocationOrigin := .builtin
  pending := false
  retryAfterAt := none
  reservationHeld := false
  skipIncrementAttempts := false
  observed := .fresh
  preserveSpawnReservation := false
  observedSpawnReservedAt := none
  expectedNodeLivenessRevision := none

/-- The slot of a placement goes back, unless the placement is queued and has none. -/
def releasePlacement (placement : Placement) : Prog lang Unit :=
  releaseWhen (!placement.queued) placement.nodeId

/-- A spawn that goes to the provider of a shadow action on the node. -/
def dispatchToShadow (args : SpawnArgs) (placement : Placement) (shadow : Action)
    (providerName : String) : Prog lang (Except Thrown SpawnResult) := do
  releasePlacement placement
  let result ← dispatchNodeProviderInvocation
    { args.dispatchArgs placement.nodeId providerName with
      actionId := some shadow.id
      expectedActionId := some shadow.id
      invocationOrigin := .registeredAction } none shadow.queue true
  match result with
  | .error e => pure (.error e)
  | .ok ⟨d, _⟩ =>
    match d.settled with
    | some row => pure (.ok (.settled row))
    | none => pure (.ok (spawnResult placement.nodeId d))

/-- A spawn that goes to native capacity on the node. -/
def dispatchToCapacity (args : SpawnArgs) (placement : Placement) (providerName : String) :
    Prog lang (Except Thrown SpawnResult) := do
  let result ← dispatchNodeInvocation
    { args.dispatchArgs placement.nodeId providerName with
      pending := placement.queued
      reservationHeld := !placement.queued }
  match result with
  | .error e => pure (.error e)
  | .ok d =>
    -- the slot goes back first: only the mark makes the row drainable
    releaseWhen (!d.accepted && !placement.queued) placement.nodeId
    let _ ← markUnlessSent d args.invocationId placement.nodeId
    pure (.ok (spawnResult placement.nodeId d))

/-- A placed spawn, to the shadow of native capacity if one is bound in time. -/
def dispatchReady (args : SpawnArgs) (placement : Placement) (shadow : Option Action)
    (capProvider : String) : Prog lang (Except Thrown SpawnResult) := do
  let snapshotted : Option Row ← await (.write args.invocationId
    (.snapshotInvocationHandlerNode placement.nodeId none) .nothing)
  if snapshotted.isNone then
    releasePlacement placement
    pure (.error (.coded
      ⟨"Spawn invocation is no longer available for placement", "idempotency_unavailable", 503⟩))
  else
    match shadow, shadow.bind Action.handlerProvider with
    | some shadow, some shadowProvider =>
      let bound : Option Row ← await (.write args.invocationId
        (.bindInvocationToRegisteredNodeAction placement.nodeId shadowProvider shadow.id
          args.input.capability) .nothing)
      if bound.isSome then dispatchToShadow args placement shadow shadowProvider
      else dispatchToCapacity args placement capProvider
    | _, _ => dispatchToCapacity args placement capProvider

/-- Is the provider ready to accept work, where the request asks for that? -/
def verifyReady (args : SpawnArgs) (placement : Placement) (providerName : String) :
    Prog lang Bool :=
  if !args.input.verifyReady then pure true
  else if placement.queued then pure false
  else await (.isNodeProviderLive placement.nodeId providerName)

/-- The shadow of native capacity on a node, unless the request bypasses it. -/
def spawnShadow (args : SpawnArgs) (nodeId : NodeId) : Prog lang (Option Action) :=
  if args.bypassShadow then pure none
  else await (.fetchNodeAction nodeId args.input.capability)

/-- A placed spawn, if its provider is ready where that is asked for. -/
def dispatchPlaced (args : SpawnArgs) (placement : Placement) :
    Prog lang (Except Thrown SpawnResult) := do
  let shadow ← spawnShadow args placement.nodeId
  let name : Option String ←
    await (.capacityProviderName placement.nodeId args.input.capability)
  let capProvider := name.getD defaultProviderName
  let ready ← verifyReady args placement
    ((shadow.bind Action.handlerProvider).getD capProvider)
  if ready then dispatchReady args placement shadow capProvider
  else
    let _ : Option Row ← await (.write args.invocationId
      (.failNeverDispatchedInvocation "spawn_target_unavailable") .nothing)
    releasePlacement placement
    pure (.error (.coded
      ⟨"Verified spawn target is not connected and ready to accept work; retry when it is available",
        "spawn_target_unavailable", 503⟩))

/-- `dispatchSpawn`.  A replay only polls the row it finds until that is settled or dispatched. -/
def dispatchSpawn (args : SpawnArgs) : Prog lang (Except Thrown SpawnResult) := do
  let created : Bool ←
    await (.createInvocation args.invocationId args.callerId args.input)
  if !created then
    if args.keyed then pure (.ok .replayed)
    else pure (.error (.plain ("Action invocation id collision: " ++ args.invocationId)))
  else
    match ← claimSpawnNode ⟨args.input, args.callerId, args.targetNodeId, []⟩ with
    | .error e =>
      let _ : Unit ← await (.deleteUnplaced args.invocationId)
      pure (.error (.coded e))
    | .ok placement => dispatchPlaced args placement

end Invocation
