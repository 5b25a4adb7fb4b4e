import Relaycast.Fleet.Aggregate

/-!
# Both paths derive one aggregate

For a node with a provider, the row that `refreshNodeAggregate` writes and the row that
`recomputeNodeAggregate` writes agree in every derived column (`aggregates_agree`).  The lists of
capabilities have the same names; where providers declare a name twice, which declaration stays is
up to the engine on one path and to the order of the rows on the other.
-/

namespace Fleet

open Relational

/-! ## The union manifest -/

section Manifest

variable {byName : List FleetCapability} {caps : List FleetCapability} {cap : FleetCapability}

lemma mem_addCapability {c : FleetCapability} (hc : c ∈ addCapability byName cap) :
    c ∈ byName ∨ c = cap := by
  unfold addCapability at hc
  split_ifs at hc
  · exact .inl hc
  · simpa using hc

lemma names_addCapability (name : String) :
    name ∈ (addCapability byName cap).map FleetCapability.name ↔
      name ∈ byName.map FleetCapability.name ∨ name = cap.name := by
  unfold addCapability
  split_ifs with hknown
  · obtain ⟨c, hc, hname⟩ := List.any_eq_true.mp hknown
    have hmem : cap.name ∈ byName.map FleetCapability.name :=
      List.mem_map.mpr ⟨c, hc, beq_iff_eq.mp hname⟩
    exact ⟨.inl, fun h => h.elim id fun heq => heq ▸ hmem⟩
  · rw [List.map_append, List.mem_append]
    simp

lemma nodup_addCapability (h : (byName.map FleetCapability.name).Nodup) :
    ((addCapability byName cap).map FleetCapability.name).Nodup := by
  unfold addCapability
  split_ifs with hknown
  · exact h
  · rw [List.map_append]
    refine h.append (List.nodup_singleton _) ?_
    rw [List.map_singleton, List.disjoint_singleton]
    intro hmem
    obtain ⟨c, hc, hname⟩ := List.mem_map.mp hmem
    exact hknown (List.any_eq_true.mpr ⟨c, hc, beq_iff_eq.mpr hname⟩)

/-- The first capability of each name: the names of all, no name twice, and nothing new. -/
lemma foldl_addCapability (caps : List FleetCapability) :
    ∀ byName : List FleetCapability, (byName.map FleetCapability.name).Nodup →
      ((caps.foldl addCapability byName).map FleetCapability.name).Nodup ∧
      (∀ name, name ∈ (caps.foldl addCapability byName).map FleetCapability.name ↔
        name ∈ byName.map FleetCapability.name ∨ name ∈ caps.map FleetCapability.name) ∧
      ∀ c ∈ caps.foldl addCapability byName, c ∈ byName ∨ c ∈ caps := by
  induction caps with
  | nil => exact fun byName h => ⟨h, by simp, fun c hc => .inl hc⟩
  | cons cap caps ih =>
    intro byName h
    obtain ⟨hnodup, hnames, hmem⟩ := ih (addCapability byName cap) (nodup_addCapability h)
    refine ⟨hnodup, fun name => ?_, fun c hc => ?_⟩
    · rw [List.foldl_cons, hnames, names_addCapability, List.map_cons, List.mem_cons, or_assoc]
    · rcases hmem c hc with hadded | hlater
      · rcases mem_addCapability hadded with hold | rfl
        · exact .inl hold
        · exact .inr List.mem_cons_self
      · exact .inr (List.mem_cons_of_mem _ hlater)

end Manifest

/-! ## The derived columns -/

/-- What two rows of a node, derived from its providers at two times, have in common. -/
structure AggregatesAgree (providers : List ProviderRow) (now now' : Millis) (n n' : NodeRow) :
    Prop where
  maxAgents : n.maxAgents = n'.maxAgents
  activeAgents : n.activeAgents = n'.activeAgents
  loadReported : n.loadReported = n'.loadReported
  load : n.load = n'.load
  handlersLive : n.handlersLive = n'.handlersLive
  status : n.status = n'.status
  heartbeat : (∃ p ∈ online providers, p.lastHeartbeatAt.isSome = true) →
    n.lastHeartbeatAt = n'.lastHeartbeatAt
  noHeartbeat : (∀ p ∈ online providers, p.lastHeartbeatAt = none) →
    n.lastHeartbeatAt = some (toSeconds now) ∧ n'.lastHeartbeatAt = some (toSeconds now')
  names : ∀ name, name ∈ n.capabilities.map FleetCapability.name ↔
    name ∈ n'.capabilities.map FleetCapability.name
  nodup : (n.capabilities.map FleetCapability.name).Nodup
  nodup' : (n'.capabilities.map FleetCapability.name).Nodup
  declared : ∀ c ∈ n.capabilities, ∃ p ∈ providers, c ∈ p.capabilities
  declared' : ∀ c ∈ n'.capabilities, ∃ p ∈ providers, c ∈ p.capabilities

section Columns

variable {providers : List ProviderRow}

lemma allReported_eq : allReported providers = everyReported providers := by
  unfold allReported everyReported
  rw [← List.all_eq_not_any_not]

/-- The latest heartbeat, as it is stored. -/
lemma latestHeartbeat_eq (providers : List ProviderRow) : latestHeartbeat providers =
    (sqlMax (providers.map (·.lastHeartbeatAt))).map toDate := by
  have hmonotone : Monotone toDate := fun a b hab => Nat.mul_le_mul_right 1000 hab
  unfold latestHeartbeat sqlMax
  rw [foldl_laterOf, ← max?_map_of_monotone hmonotone]
  simp [List.filterMap_map, List.map_filterMap]

lemma sqlMax_heartbeats_eq_none (h : ∀ p ∈ providers, p.lastHeartbeatAt = none) :
    sqlMax (providers.map (·.lastHeartbeatAt)) = none := by
  have hnone : (providers.map (·.lastHeartbeatAt)).filterMap id = [] := by
    rw [List.filterMap_eq_nil_iff]
    intro t ht
    obtain ⟨p, hp, rfl⟩ := List.mem_map.mp ht
    exact h p hp
  rw [sqlMax, hnone]
  rfl

lemma sqlMax_heartbeats_isSome (h : ∃ p ∈ providers, p.lastHeartbeatAt.isSome = true) :
    ∃ t, sqlMax (providers.map (·.lastHeartbeatAt)) = some t := by
  obtain ⟨p, hp, hsome⟩ := h
  obtain ⟨t, ht⟩ := Option.isSome_iff_exists.mp hsome
  have hmem : t ∈ (providers.map (·.lastHeartbeatAt)).filterMap id :=
    List.mem_filterMap.mpr ⟨some t, List.mem_map.mpr ⟨p, hp, ht⟩, rfl⟩
  exact Option.isSome_iff_exists.mp (List.isSome_max?_of_mem hmem)

/-- **One row, derived on both paths.** -/
lemma agree_of_providers (B : BareColumn FleetCapability) (hproviders : providers ≠ [])
    (now now' : Millis) (extra : RefreshExtra) (extra' : RecomputeExtra) (n : NodeRow) :
    AggregatesAgree providers now now' (n.refreshed B providers now extra)
      (n.recomputed providers now' extra') := by
  have hnames := foldl_addCapability (providers.flatMap (·.capabilities)) [] List.nodup_nil
  have hempty : providers.isEmpty = false := by simpa using hproviders
  have hcapabilities : (n.refreshed B providers now extra).capabilities =
      B.groupBy FleetCapability.name (providers.flatMap (·.capabilities)) := by
    simp [NodeRow.refreshed, hempty]
  refine
    { maxAgents := ?_
      activeAgents := ?_
      loadReported := allReported_eq
      load := ?_
      handlersLive := rfl
      status := ?_
      heartbeat := fun hsome => ?_
      noHeartbeat := fun hnone => ?_
      names := fun name => ?_
      nodup := ?_
      nodup' := hnames.1
      declared := fun c hc => ?_
      declared' := fun c hc => ?_ }
  · show (if anyUnbounded providers then 0 else _) =
      if providers.any (·.maxAgents == 0) then 0 else _
    rw [coalesce_sqlSum, foldl_add_eq_sum, zero_add]
    rfl
  · show _ = providers.foldl (fun sum p => sum + p.activeAgents) 0
    rw [foldl_add_eq_sum, zero_add]
    exact coalesce_sqlSum _
  · show (if allReported providers then _ else 0) = if everyReported providers then _ else 0
    rw [allReported_eq, sqlMax]
    simp [List.filterMap_map]
  · show (if providers.any (·.status == "online") then _ else _) =
      if 0 < (providers.filter (·.status == "online")).length then _ else _
    have hpos : 0 < (providers.filter (·.status == "online")).length ↔
        providers.any (·.status == "online") = true := by
      rw [List.length_pos_iff_exists_mem]
      simp
    simp only [hpos]
  · obtain ⟨t, ht⟩ := sqlMax_heartbeats_isSome hsome
    show some _ = some (toSeconds ((latestHeartbeat (online providers)).getD now'))
    rw [latestHeartbeat_eq, ht]
    simp
  · have hmax := sqlMax_heartbeats_eq_none hnone
    refine ⟨?_, ?_⟩
    · show some ((sqlMax _).getD _) = _
      rw [hmax]
      rfl
    · show some (toSeconds ((latestHeartbeat (online providers)).getD now')) = _
      rw [latestHeartbeat_eq, hmax]
      rfl
  · rw [hcapabilities, B.map_key_groupBy, mem_groupKeys, ← List.mem_map]
    have hname := hnames.2.1 name
    rw [List.map_nil, or_iff_right List.not_mem_nil] at hname
    exact hname.symm
  · rw [hcapabilities, B.map_key_groupBy]
    exact List.nodup_dedup _
  · rw [hcapabilities] at hc
    exact List.mem_flatMap.mp (B.groupBy_subset _ _ hc)
  · exact List.mem_flatMap.mp ((hnames.2.2 c hc).resolve_left List.not_mem_nil)

end Columns

/-! ## The stored row -/

/-- What an update leaves of the row of its node. -/
lemma Store.node?_updateNode {s : Store} {workspaceId : WorkspaceId} {nodeId : NodeId}
    (set : NodeRow → NodeRow) (hset : ∀ n, (set n).id = n.id)
    (hworkspace : ∀ n, (set n).workspaceId = n.workspaceId) :
    (s.updateNode workspaceId nodeId set hset).node? workspaceId nodeId =
      (s.node? workspaceId nodeId).map set := by
  have hfind := Table.find?_update (T := s.nodes) (f := set) (fun n => hset n)
    (p := fun n => n.workspaceId == workspaceId && n.id == nodeId)
    (q := fun n => n.workspaceId == workspaceId && n.id == nodeId)
    (fun n => by rw [hset, hworkspace])
  rw [Store.node?, Store.updateNode, hfind, Store.node?]
  refine Option.map_congr fun n hn => ?_
  rw [if_pos (List.find?_some hn)]

/-- **Both paths write one aggregate** for a node that has a provider. -/
theorem aggregates_agree (B : BareColumn FleetCapability) (s : Store) (workspaceId : WorkspaceId)
    (nodeId : NodeId) (extra : RefreshExtra) (extra' : RecomputeExtra) (now now' : Millis)
    (hproviders : s.listProviders workspaceId nodeId ≠ []) :
    Option.Rel (AggregatesAgree (s.listProviders workspaceId nodeId) now now')
      ((refreshNodeAggregate B s workspaceId nodeId extra now).node? workspaceId nodeId)
      ((recomputeNodeAggregate s (s.listProviders workspaceId nodeId) workspaceId nodeId extra'
        now').node? workspaceId nodeId) := by
  have hrefresh : (refreshNodeAggregate B s workspaceId nodeId extra now).node? workspaceId nodeId =
      (s.node? workspaceId nodeId).map (NodeRow.refreshed B _ now extra) :=
    Store.node?_updateNode _ _ fun _ => rfl
  have hrecompute : (recomputeNodeAggregate s (s.listProviders workspaceId nodeId) workspaceId
      nodeId extra' now').node? workspaceId nodeId =
        (s.node? workspaceId nodeId).map (NodeRow.recomputed _ now' extra') :=
    Store.node?_updateNode _ _ fun _ => rfl
  rw [hrefresh, hrecompute]
  cases s.node? workspaceId nodeId with
  | none => exact .none
  | some n => exact .some (agree_of_providers B hproviders now now' extra extra' n)

/-! ## Two providers of one capability -/

def provider (name : String) (caps : List FleetCapability) (maxAgents : ℕ)
    (lastHeartbeatAt : Option Seconds) : ProviderRow where
  id := name
  workspaceId := "w"
  nodeId := "n"
  name := name
  capabilities := caps
  maxAgents := maxAgents
  activeAgents := 1
  load := 0
  loadReported := true
  handlersLive := true
  status := "online"
  lastHeartbeatAt := lastHeartbeatAt

def spawnOf (kind : Option String) : FleetCapability := ⟨"spawn:claude", kind, none, none, none, none⟩

/-- A node with two providers that declare one capability. -/
def twoProviders : Store where
  nodes := Table.empty.insert
    { id := "n"
      workspaceId := "w"
      name := "node"
      machineId := none
      capabilities := []
      maxAgents := 0
      activeAgents := 0
      version := "1"
      status := "offline"
      handlersLive := false
      load := 0
      loadReported := false
      lastHeartbeatAt := none
      provenLiveAt := none } rfl
  providers :=
    [provider "p" [spawnOf none] 2 (some 7), provider "q" [spawnOf (some "capacity")] 3 none]

/-- The engine takes a column from the first row of its group. -/
def firstOfGroup : BareColumn FleetCapability where
  pick group h := group.head h
  pick_mem _ _ := List.head_mem _

/-- The aggregates of a node with two providers. -/
theorem aggregates_agree_twoProviders :
    twoProviders.listProviders "w" "n" ≠ [] ∧
    Option.Rel (AggregatesAgree (twoProviders.listProviders "w" "n") 9000 9500)
      ((refreshNodeAggregate firstOfGroup twoProviders "w" "n" ⟨none, none, none⟩ 9000).node? "w"
        "n")
      ((recomputeNodeAggregate twoProviders (twoProviders.listProviders "w" "n") "w" "n"
        ⟨none, none, none⟩ 9500).node? "w" "n") :=
  have hproviders : twoProviders.listProviders "w" "n" ≠ [] := by
    simp [Store.listProviders, twoProviders, provider]
  ⟨hproviders, aggregates_agree firstOfGroup twoProviders "w" "n" _ _ 9000 9500 hproviders⟩

end Fleet
