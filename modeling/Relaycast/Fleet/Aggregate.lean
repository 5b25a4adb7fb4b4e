import Mathlib.Algebra.Order.Ring.Unbundled.Rat
import Mathlib.Data.Int.Notation
import Mathlib.Data.Rat.Defs
import Relaycast.Relational.Aggregate
import Relaycast.Relational.Table
import Relaycast.Relational.Timestamp
import Relaycast.Script.Json

/-!
# The columns a node derives from its providers

A node's capacity, load, liveness and capabilities are derived from the rows of its providers, on
two paths: a heartbeat writes them with subqueries in one statement (`refreshNodeAggregate`),
everything else reads the providers first and folds over them (`recomputeNodeAggregate`).
-/

namespace Fleet

open Relational Script

abbrev WorkspaceId := String
abbrev NodeId := String

/-- `FleetCapability`. -/
structure FleetCapability where
  name : String
  kind : Option String
  global : Option Bool
  queue : Option Bool
  executionMode : Option String
  metadata : Option (List (String × Json))

/-- A row of `node_providers`. -/
structure ProviderRow where
  id : String
  workspaceId : WorkspaceId
  nodeId : NodeId
  name : String
  capabilities : List FleetCapability
  maxAgents : ℕ
  activeAgents : ℕ
  load : ℚ
  loadReported : Bool
  handlersLive : Bool
  status : String
  lastHeartbeatAt : Option Seconds

/-- A row of `nodes`. -/
structure NodeRow where
  id : NodeId
  workspaceId : WorkspaceId
  name : String
  machineId : Option String
  capabilities : List FleetCapability
  maxAgents : ℕ
  activeAgents : ℕ
  version : String
  status : String
  handlersLive : Bool
  load : ℚ
  loadReported : Bool
  lastHeartbeatAt : Option Seconds
  provenLiveAt : Option Seconds

instance : Keyed NodeRow where
  Key := NodeId
  key := NodeRow.id
  clash k k' := k == k'
  clash_comm _ _ := Bool.beq_comm

structure Store where
  nodes : Table NodeRow
  providers : List ProviderRow

namespace Store

variable (s : Store) (workspaceId : WorkspaceId) (nodeId : NodeId)

/-- `listProviders`. -/
def listProviders : List ProviderRow :=
  s.providers.filter fun p => p.workspaceId == workspaceId && p.nodeId == nodeId

/-- The row of a node. -/
def node? : Option NodeRow :=
  s.nodes.rows.find? fun n => n.workspaceId == workspaceId && n.id == nodeId

/-- `UPDATE nodes SET … WHERE workspace_id = … AND id = …`. -/
def updateNode (set : NodeRow → NodeRow) (hset : ∀ n, (set n).id = n.id) : Store :=
  { s with
    nodes := s.nodes.update (fun n => n.workspaceId == workspaceId && n.id == nodeId) set hset }

end Store

/-! ## One statement -/

/-- What a refresh may set beside the aggregate. -/
structure RefreshExtra where
  name : Option String
  version : Option String
  provenLiveAt : Option Millis

section Refresh

variable (B : BareColumn FleetCapability) (onNode : List ProviderRow) (now : Millis)

/-- The providers that are online. -/
def online (onNode : List ProviderRow) : List ProviderRow := onNode.filter (·.status == "online")

/-- `EXISTS(… max_agents = 0)`. -/
def anyUnbounded : Bool := onNode.any (·.maxAgents == 0)

/-- `(SELECT count(*) …) > 0 AND NOT EXISTS(… load_reported = 0)`. -/
def allReported : Bool := decide (0 < onNode.length) && !onNode.any fun p => !p.loadReported

/-- What a refresh sets, from the rows its subqueries see. -/
def NodeRow.refreshed (extra : RefreshExtra) (n : NodeRow) : NodeRow :=
  { n with
    maxAgents := if anyUnbounded onNode then 0 else (sqlSum (onNode.map (·.maxAgents))).getD 0
    activeAgents := (sqlSum (onNode.map (·.activeAgents))).getD 0
    loadReported := allReported onNode
    load := if allReported onNode then (sqlMax (onNode.map (some ·.load))).getD 0 else 0
    handlersLive := (online onNode).any (·.handlersLive)
    status := if onNode.any (·.status == "online") then "online" else "offline"
    capabilities :=
      if onNode.isEmpty then n.capabilities
      else B.groupBy FleetCapability.name (onNode.flatMap (·.capabilities))
    lastHeartbeatAt :=
      some ((sqlMax ((online onNode).map (·.lastHeartbeatAt))).getD (toSeconds now))
    name := extra.name.getD n.name
    version := extra.version.getD n.version
    provenLiveAt := (extra.provenLiveAt.map toSeconds).or n.provenLiveAt }

end Refresh

/-- `refreshNodeAggregate`. -/
def refreshNodeAggregate (B : BareColumn FleetCapability) (s : Store) (workspaceId : WorkspaceId)
    (nodeId : NodeId) (extra : RefreshExtra) (now : Millis) : Store :=
  s.updateNode workspaceId nodeId
    (NodeRow.refreshed B (s.listProviders workspaceId nodeId) now extra) fun _ => rfl

/-! ## A read and a write -/

/-- What a recomputation may set beside the aggregate. -/
structure RecomputeExtra where
  version : Option String
  machineId : Option String
  provenLiveAt : Option Millis

/-- The first capability of each name. -/
def addCapability (byName : List FleetCapability) (cap : FleetCapability) : List FleetCapability :=
  if byName.any (·.name == cap.name) then byName else byName ++ [cap]

/-- The union manifest. -/
def capabilityByName (providers : List ProviderRow) : List FleetCapability :=
  (providers.flatMap (·.capabilities)).foldl addCapability []

/-- The latest heartbeat of the providers, as a `Date`. -/
def latestHeartbeat (providers : List ProviderRow) : Option Millis :=
  providers.foldl (fun latest p => laterOf latest (p.lastHeartbeatAt.map toDate)) none

/-- `loadReported`: there is a provider, and every one has measured its load. -/
def everyReported (providers : List ProviderRow) : Bool :=
  decide (0 < providers.length) && providers.all (·.loadReported)

/-- What a recomputation sets, from the rows it has read. -/
def NodeRow.recomputed (providers : List ProviderRow) (now : Millis) (extra : RecomputeExtra)
    (n : NodeRow) : NodeRow :=
  { n with
    capabilities := capabilityByName providers
    maxAgents :=
      if providers.any (·.maxAgents == 0) then 0
      else providers.foldl (fun sum p => sum + p.maxAgents) 0
    activeAgents := providers.foldl (fun sum p => sum + p.activeAgents) 0
    load := if everyReported providers then ((providers.map (·.load)).max?).getD 0 else 0
    loadReported := everyReported providers
    handlersLive := (online providers).any (·.handlersLive)
    status := if 0 < (online providers).length then "online" else "offline"
    lastHeartbeatAt := some (toSeconds ((latestHeartbeat (online providers)).getD now))
    version := extra.version.getD n.version
    machineId := extra.machineId.or n.machineId
    provenLiveAt := (extra.provenLiveAt.map toSeconds).or n.provenLiveAt }

/-- `recomputeNodeAggregate`, where the providers have been read already. -/
def recomputeNodeAggregate (s : Store) (providers : List ProviderRow) (workspaceId : WorkspaceId)
    (nodeId : NodeId) (extra : RecomputeExtra) (now : Millis) : Store :=
  s.updateNode workspaceId nodeId (NodeRow.recomputed providers now extra) fun _ => rfl

end Fleet
