import Mathlib.Data.List.Induction
import Mathlib.Data.List.Infix
import Relaycast.Fleet.Aggregate
import Relaycast.Reactive.WorkerPool

/-!
# Listing nodes under a liveness authority

Whether a node is online is known to the authority that owns its socket, so a list of nodes asks it
about one row after the other.  `publicNodes` has eight workers do this and stops asking when as
many rows as wanted have matched the selection.  A row that the authority could not report online,
since its last checkpoint is too old, is offline without asking when offline rows are wanted.

The rows are numbered in their order, and the answer about each is that of its own probe.  An answer
carries the two readings of the clock that are made when it arrives.  Dates stand for their
`toISOString` texts.
-/

namespace NodeList

open Relational Script Reactive
open Fleet (FleetCapability WorkspaceId NodeId)

inductive NodeStatus
  | online
  | offline
  deriving DecidableEq

/-- `NodeLivenessSnapshot['status']`. -/
inductive AuthorityStatus
  | online
  | offline
  | unknown
  deriving DecidableEq

/-- What a list needs of a row of `nodes`. -/
structure NodeRow where
  id : NodeId
  workspaceId : WorkspaceId
  name : String
  kind : String
  role : String
  machineId : Option String
  deliveryAdapter : String
  deliveryConfig : Option (List (String × Json))
  capabilities : List FleetCapability
  tags : List String
  version : String
  status : String
  handlersLive : Bool
  load : ℚ
  loadReported : Bool
  activeAgents : ℕ
  maxAgents : ℕ
  lastHeartbeatAt : Option Seconds
  createdAt : Seconds

/-- What `publicNode` returns. -/
structure PublicNode where
  id : NodeId
  name : String
  kind : String
  role : String
  machine_id : Option String
  delivery_adapter : String
  delivery : Option Json
  capabilities : List FleetCapability
  tags : List String
  version : String
  status : NodeStatus
  liveness_status : Option AuthorityStatus
  live : Bool
  handlers_live : Bool
  load : Option ℚ
  active_agents : ℕ
  active_agents_stale : Bool
  max_agents : ℕ
  last_heartbeat_at : Option Millis
  created_at : Millis

/-! ## What is shown of a delivery configuration -/

/-- `SENSITIVE_DELIVERY_KEY`. -/
def SENSITIVE_DELIVERY_KEY : List String :=
  ["apikey", "api_key", "api-key", "authorization", "cookie", "credential", "headers", "password",
    "privatekey", "private_key", "private-key", "secret", "token"]

/-- `SENSITIVE_DELIVERY_KEY.test(key)`. -/
def isSensitive (key : String) : Bool :=
  SENSITIVE_DELIVERY_KEY.any fun word => decide (word.toList <:+: key.toLower.toList)

/-- `/^headers$/i.test(key)`. -/
def isHeaders (key : String) : Bool := key.toLower == "headers"

def redacted : Json := .str "[redacted]"

mutual

/-- `redactDeliveryValue`. -/
def redactDeliveryValue (key : Option String) : Json → Json
  | .obj fields =>
    if key.any isHeaders then .obj (fields.map fun field => (field.1, redacted))
    else if key.any isSensitive then redacted
    else .obj (redactFields fields)
  | .arr items => if key.any isSensitive then redacted else .arr (redactItems items)
  | .null => if key.any isSensitive then redacted else .null
  | .bool b => if key.any isSensitive then redacted else .bool b
  | .num n => if key.any isSensitive then redacted else .num n
  | .str s => if key.any isSensitive then redacted else .str s

def redactItems : List Json → List Json
  | [] => []
  | v :: vs => redactDeliveryValue none v :: redactItems vs

def redactFields : List (String × Json) → List (String × Json)
  | [] => []
  | (childKey, v) :: fields => (childKey, redactDeliveryValue (some childKey) v) :: redactFields fields

end

/-- `redactDeliveryConfig`. -/
def redactDeliveryConfig (config : Option (List (String × Json))) : Option Json :=
  config.map fun fields => redactDeliveryValue none (.obj fields)

@[simp] lemma redactItems_eq (items : List Json) :
    redactItems items = items.map (redactDeliveryValue none) := by
  induction items with
  | nil => rfl
  | cons v vs ih => simp [redactItems, ih]

@[simp] lemma redactFields_eq (fields : List (String × Json)) :
    redactFields fields =
      fields.map fun field => (field.1, redactDeliveryValue (some field.1) field.2) := by
  induction fields with
  | nil => rfl
  | cons field fields ih => simp [redactFields, ih]

/-- What is shown has nothing left to redact. -/
theorem redactDeliveryValue_idem (v : Json) (key : Option String) :
    redactDeliveryValue key (redactDeliveryValue key v) = redactDeliveryValue key v := by
  induction v using Json.induction generalizing key with
  | null => cases hkey : key.any isSensitive <;> simp [redactDeliveryValue, hkey, redacted]
  | bool b => cases hkey : key.any isSensitive <;> simp [redactDeliveryValue, hkey, redacted]
  | num n => cases hkey : key.any isSensitive <;> simp [redactDeliveryValue, hkey, redacted]
  | str s => cases hkey : key.any isSensitive <;> simp [redactDeliveryValue, hkey, redacted]
  | arr items ih =>
    cases hkey : key.any isSensitive with
    | true => simp [redactDeliveryValue, hkey, redacted]
    | false =>
      simp only [redactDeliveryValue, redactItems_eq, hkey, Bool.false_eq_true, if_false,
        List.map_map, Json.arr.injEq]
      exact List.map_congr_left fun v hv => ih v hv none
  | obj fields ih =>
    cases hheaders : key.any isHeaders with
    | true => simp [redactDeliveryValue, hheaders]
    | false =>
      cases hkey : key.any isSensitive with
      | true => simp [redactDeliveryValue, hheaders, hkey, redacted]
      | false =>
        simp only [redactDeliveryValue, redactFields_eq, hheaders, hkey, Bool.false_eq_true,
          if_false, List.map_map, Json.obj.injEq]
        exact List.map_congr_left fun field hfield => by simp [ih field hfield]

/-! ## One row -/

/-- `NODE_LIVENESS_TTL_MS`. -/
def NODE_LIVENESS_TTL_MS : Millis := 45000

/-- `NODE_LIVENESS_CHECKPOINT_INTERVAL_MS`. -/
def NODE_LIVENESS_CHECKPOINT_INTERVAL_MS : Millis := 300000

/-- `NODE_CHECKPOINT_LANDING_SLACK_MS`. -/
def NODE_CHECKPOINT_LANDING_SLACK_MS : Millis := 240000

/-- `NODE_ONLINE_CANDIDATE_RECENCY_MS`. -/
def NODE_ONLINE_CANDIDATE_RECENCY_MS : Millis :=
  NODE_LIVENESS_TTL_MS + NODE_LIVENESS_CHECKPOINT_INTERVAL_MS + NODE_CHECKPOINT_LANDING_SLACK_MS

namespace NodeRow

/-- `isOnlineCandidate`. -/
def isOnlineCandidate (row : NodeRow) (now : Millis) : Bool :=
  row.lastHeartbeatAt.any fun heartbeat =>
    decide (now ≤ toDate heartbeat + NODE_ONLINE_CANDIDATE_RECENCY_MS)

/-- `isNodeLive`. -/
def isNodeLive (row : NodeRow) (now : Millis) : Bool :=
  row.status == "online" && row.lastHeartbeatAt.any fun heartbeat =>
    decide (toDate heartbeat ≤ now) && decide (now - toDate heartbeat ≤ NODE_LIVENESS_TTL_MS)

/-- `publicNode`. -/
def publicNode (row : NodeRow) (now : Millis) (authoritativeLive : Option Bool)
    (authorityStatus : Option AuthorityStatus) : PublicNode :=
  let live := authoritativeLive.getD (row.isNodeLive now)
  { id := row.id
    name := row.name
    kind := row.kind
    role := row.role
    machine_id := row.machineId
    delivery_adapter := row.deliveryAdapter
    delivery := redactDeliveryConfig row.deliveryConfig
    capabilities := row.capabilities
    tags := row.tags
    version := row.version
    status := if live then .online else .offline
    liveness_status := authorityStatus
    live
    handlers_live := live && row.handlersLive
    load := if row.loadReported then some row.load else none
    active_agents := row.activeAgents
    active_agents_stale := !live
    max_agents := row.maxAgents
    last_heartbeat_at := row.lastHeartbeatAt.map toDate
    created_at := toDate row.createdAt }

end NodeRow

/-! ## The authority's answer -/

/-- `NodeLivenessSnapshot['providers'][number]`. -/
structure ProviderLease where
  name : String
  last_received_at : Millis
  expires_at : Millis
  live : Bool
  handlers_live : Bool
  deriving DecidableEq

/-- `NodeLivenessSnapshot`. -/
structure NodeLivenessSnapshot where
  status : AuthorityStatus
  providers : List ProviderLease
  deriving DecidableEq

/-- How `authority.inspect` ends. -/
inductive Reply
  | resolved (snapshot : NodeLivenessSnapshot)
  | rejected
  deriving DecidableEq

/-- The reply to a probe, and the clock when it is judged: in `snapshotOnline`, and right after. -/
structure Answer where
  reply : Reply
  judgedAt : Millis
  receivedAt : Millis
  deriving DecidableEq

/-- The lease is held. -/
def ProviderLease.fresh (p : ProviderLease) (now : Millis) : Bool :=
  decide (now < p.expires_at) && decide (p.last_received_at ≤ now)

/-- `inspectNodeLiveness`, with an authority. -/
def inspectNodeLiveness : Reply → NodeLivenessSnapshot
  | .resolved snapshot => snapshot
  | .rejected => ⟨.unknown, []⟩

/-- `snapshotOnline`. -/
def NodeLivenessSnapshot.snapshotOnline (s : NodeLivenessSnapshot) (now : Millis) : Bool :=
  s.status == .online && s.providers.any fun p => p.live && p.fresh now

/-- A row after its probe; none if it is not selected. -/
def NodeRow.probed (row : NodeRow) (now : Millis) (status : Option NodeStatus) (answer : Answer) :
    Option PublicNode :=
  let snapshot := inspectNodeLiveness answer.reply
  let live := snapshot.snapshotOnline answer.judgedAt
  let item :=
    { row.publicNode now (some live) (some snapshot.status) with
      handlers_live := live && snapshot.providers.any fun p =>
        p.live && p.handlers_live && p.fresh answer.receivedAt }
  if status.all (item.status == ·) then some item else none

/-- A row that is offline without a probe. -/
def NodeRow.unprobed (row : NodeRow) (now : Millis) (status : Option NodeStatus) :
    Option PublicNode :=
  if status = some .offline ∧ row.isOnlineCandidate now = false then
    some (row.publicNode now (some false) (some .offline))
  else none

/-! ## The list -/

/-- How many probes are in flight at most. -/
def PROBES_IN_FLIGHT : ℕ := 8

section

variable (rows : List NodeRow) (now : Millis) (status : Option NodeStatus) (limit : Option ℕ)
  (answers : ℕ → Answer)

/-- The rows that match the selection, each under the answer of its own probe, in row order. -/
def matching : List PublicNode :=
  rows.zipIdx.filterMap fun (row, i) =>
    (row.unprobed now status).or (row.probed now status (answers i))

/-- What the workers of `publicNodes` look through. -/
def probing : Search PublicNode where
  size := rows.length
  limit
  atOnce i := rows[i]?.bind fun row => row.unprobed now status
  answer i := rows[i]?.bind fun row => row.probed now status (answers i)

/-- The workers of `publicNodes` after the answers to these, in the order in which they came. -/
def publicNodesAfter (ks : List ℕ) : Option (Pool PublicNode) :=
  run (probing rows now status limit answers).step
    ((probing rows now status limit answers).started (min PROBES_IN_FLIGHT rows.length)) ks

/-- What `publicNodes` returns; nothing before all its workers have ended. -/
def returned (p : Pool PublicNode) : Option (List PublicNode) :=
  if p.ended then some (takeFirst limit p.cursor.found.reduceOption) else none

/-- A scan that probes one row at a time. -/
def oneAtATime : List PublicNode :=
  (probing rows now status limit answers).oneAtATime (List.range rows.length) 0

/-! ## Every order of answers -/

/-- What holds of the workers of `publicNodes` after the answers to `ks`. -/
structure BoundedProbing (ks : List ℕ) (p : Pool PublicNode) : Prop where
  /-- What is returned are the first rows that match. -/
  result : ∀ items, returned limit p = some items →
    items = takeFirst limit (matching rows now status answers) ∧
    items = oneAtATime rows now status limit answers
  /-- Something is returned: until then an answer is outstanding, and there are no more answers than
  rows. -/
  returns : returned limit p = none →
    ∃ k, ((probing rows now status limit answers).step p k).isSome = true
  answered_le : ks.length ≤ rows.length
  inFlight_le : p.waiting.length ≤ PROBES_IN_FLIGHT
  /-- The rows that have matched are counted, and no probe was started when enough had. -/
  matched : p.cursor.matched = p.cursor.found.countP Option.isSome
  notStarted : ∀ probe ∈ p.cursor.probes, ∀ n, limit = some n → probe.matched < n
  /-- A row is probed once, and not at all if it is offline without a probe. -/
  once : (p.cursor.probes.map Probe.index).Nodup
  needed : ∀ probe ∈ p.cursor.probes, ∃ row, rows[probe.index]? = some row ∧
    row.unprobed now status = none

end

variable {rows : List NodeRow} {now : Millis} {status : Option NodeStatus} {limit : Option ℕ}
  {answers : ℕ → Answer}

/-- What is kept of a numbered list, read at its indexes. -/
lemma filterMap_zipIdx {α γ : Type} (f : α × ℕ → Option γ) (l : List α) :
    l.zipIdx.filterMap f =
      (List.range l.length).filterMap fun i => l[i]?.bind fun a => f (a, i) := by
  induction l using List.reverseRecOn with
  | nil => rfl
  | append_singleton l a ih =>
    have hbefore : (List.range l.length).filterMap
        (fun i => (l ++ [a])[i]?.bind fun a => f (a, i)) =
        (List.range l.length).filterMap fun i => l[i]?.bind fun a => f (a, i) :=
      List.filterMap_congr fun i hi => by
        rw [List.getElem?_append_left (List.mem_range.mp hi)]
    rw [List.zipIdx_append, List.filterMap_append, ih, List.length_append, List.length_singleton,
      List.range_succ, List.filterMap_append, hbefore]
    simp [List.filterMap_cons]

lemma matching_eq : matching rows now status answers =
    (List.range rows.length).filterMap (probing rows now status limit answers).outcome := by
  rw [matching, filterMap_zipIdx]
  refine List.filterMap_congr fun i _ => ?_
  cases hrow : rows[i]? <;> simp [Search.outcome, probing, hrow]

lemma oneAtATime_eq : oneAtATime rows now status limit answers =
    takeFirst limit (matching rows now status answers) := by
  rw [oneAtATime, Search.oneAtATime_eq, ← matching_eq]
  simp [probing]

lemma returned_eq_some {p : Pool PublicNode} {items : List PublicNode} :
    returned limit p = some items ↔
      p.ended = true ∧ takeFirst limit p.cursor.found.reduceOption = items := by
  unfold returned
  split <;> simp_all

/-- **Whatever order the answers come in, the first rows that match are returned, at most eight
probes are in flight and none starts when enough rows have matched.** -/
theorem boundedProbing_of_answers (rows : List NodeRow) (now : Millis) (status : Option NodeStatus)
    (limit : Option ℕ) (answers : ℕ → Answer) (ks : List ℕ) (p : Pool PublicNode)
    (hrun : publicNodesAfter rows now status limit answers ks = some p) :
    BoundedProbing rows now status limit answers ks p := by
  have hsound := (Search.poolSound_of_run (Search.poolSound_started _) hrun).1
  exact {
    result := by
      intro items hitems
      obtain ⟨hended, rfl⟩ := returned_eq_some.mp hitems
      have hscan : takeFirst limit p.cursor.found.reduceOption =
          oneAtATime rows now status limit answers :=
        Search.takeFirst_found_of_ended (fun hsize => lt_min (by decide) hsize) hrun hended
      exact ⟨hscan.trans oneAtATime_eq, hscan⟩
    returns := by
      intro hnone
      refine Search.exists_step_of_not_ended ?_
      by_contra hended
      simp [returned, hended] at hnone
    answered_le := Search.length_le_size hrun
    inFlight_le := hsound.length_waiting_le.trans (min_le_left _ _)
    matched := hsound.sound.matched_eq
    notStarted := by
      intro probe hprobe n hn
      simpa [Search.enough, probing, hn] using (hsound.sound.probes probe hprobe).1
    once := hsound.sound.probes_nodup
    needed := by
      intro probe hprobe
      have hlt : probe.index < rows.length :=
        (hsound.sound.probes_lt probe hprobe).trans_le hsound.sound.next_le
      have hnone := (hsound.sound.probes probe hprobe).2
      simp only [probing, List.getElem?_eq_getElem hlt] at hnone
      exact ⟨rows[probe.index], List.getElem?_eq_getElem hlt, hnone⟩ }

/-- A node as it was enrolled. -/
def enrolledNode (id : NodeId) : NodeRow :=
  { id, workspaceId := "ws_1", name := id, kind := "ws", role := "broker", machineId := none
    deliveryAdapter := "ws.node.v1", deliveryConfig := none, capabilities := [], tags := []
    version := "unknown", status := "online", handlersLive := false, load := 0
    loadReported := false, activeAgents := 0, maxAgents := 0, lastHeartbeatAt := some 100
    createdAt := 100 }

/-- An authority that holds a lease of the node. -/
def leased : Answer :=
  ⟨.resolved ⟨.online, [⟨"default", 100000, 145000, true, true⟩]⟩, 101000, 101000⟩

/-- The second answer comes first, and there is nothing to do after it. -/
theorem boundedProbing_of_answers_secondFirst : ∃ p,
    publicNodesAfter [enrolledNode "node_1", enrolledNode "node_2"] 101000 (some .online) (some 1)
      (fun _ => leased) [1, 0] = some p ∧
    BoundedProbing [enrolledNode "node_1", enrolledNode "node_2"] 101000 (some .online) (some 1)
      (fun _ => leased) [1, 0] p :=
  ⟨_, rfl, boundedProbing_of_answers _ _ _ _ _ _ _ rfl⟩

end NodeList
