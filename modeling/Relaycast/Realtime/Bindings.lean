import Relaycast.Realtime.Registry

/-!
# What the calls do to the indexes

`providerConnId`, `conns` and the lookup of a connection say all that the four indexes say.  Each
call has one lemma that gives the three after it in terms of the three before it; nothing later
unfolds a call.  `Inv` is what holds between the indexes, and every call keeps it.
-/

namespace Realtime

namespace Registry

variable {s : Registry} {key key' : NodeKey} {p p' : ProviderName} {c c' : ConnectionId}
  {w : WorkspaceId} {n : NodeId} {conn : NodeConn}

/-! ## Entries of the indexes -/

lemma bind_lookup_unbind (s : Registry) (key key' : NodeKey) (p p' : ProviderName) :
    ((s.unbind key p).lookup key').bind (AList.lookup p') =
      if key' = key ∧ p' = p then none else s.providerConnId key' p' := by
  unfold unbind providerConnId
  cases hp : s.providerIndex.lookup key with
  | none =>
    dsimp only
    split
    · next h => rw [h.1, hp, Option.bind_none]
    · rfl
  | some providers =>
    dsimp only
    by_cases hkey : key' = key
    · subst hkey
      split
      · next hnil =>
        rw [AList.lookup_erase, hp, Option.bind_none, Option.bind_some]
        have hgone := lookup_of_keys_eq_nil (k := p') hnil
        rw [lookup_erase_eq_if] at hgone
        by_cases hpp : p' = p
        · rw [if_pos ⟨rfl, hpp⟩]
        · rw [if_neg hpp] at hgone
          rw [if_neg (by simp [hpp]), hgone]
      · rw [AList.lookup_insert, hp, Option.bind_some, Option.bind_some, lookup_erase_eq_if]
        simp
    · split
      · rw [AList.lookup_erase_ne hkey, if_neg (by simp [hkey])]
      · rw [AList.lookup_insert_ne hkey, if_neg (by simp [hkey])]

lemma mem_getD_lookup_unindex (s : Registry) (key key' : NodeKey) (c c' : ConnectionId) :
    c' ∈ ((s.unindex key c).lookup key').getD [] ↔
      c' ∈ s.conns key' ∧ ¬ (key' = key ∧ c' = c) := by
  unfold unindex conns
  cases hc : s.nodeConnIndex.lookup key with
  | none =>
    dsimp only
    constructor
    · intro h
      refine ⟨h, ?_⟩
      rintro ⟨rfl, -⟩
      rw [hc] at h
      simp at h
    · exact And.left
  | some conns =>
    dsimp only
    by_cases hkey : key' = key
    · subst hkey
      split
      · next hnil =>
        rw [AList.lookup_erase, hc]
        have hall : ∀ x ∈ conns, x = c := by simpa using hnil
        constructor
        · intro h
          simp at h
        · rintro ⟨hmem, hne⟩
          exact absurd ⟨rfl, hall c' hmem⟩ hne
      · rw [AList.lookup_insert, hc]
        simp
    · split
      · rw [AList.lookup_erase_ne hkey]
        simp [hkey]
      · rw [AList.lookup_insert_ne hkey]
        simp [hkey]

/-! ## `attachNodeSocket` -/

variable {socket : Socket} {id : Option String} {now : ℕ}

lemma lookup_attachNodeSocket (s : Registry) (w : WorkspaceId) (n : NodeId) (socket : Socket)
    (id : Option String) (now : ℕ) (c : ConnectionId) :
    (s.attachNodeSocket w n socket id now).nodeConnections.lookup c =
      if c = s.newConnectionId id then
        some { socket := socket, workspaceId := w, nodeId := n, lastSeen := now }
      else s.nodeConnections.lookup c :=
  lookup_insert_eq_if

@[simp] lemma providerConnId_attachNodeSocket :
    (s.attachNodeSocket w n socket id now).providerConnId key p = s.providerConnId key p := rfl

lemma mem_conns_attachNodeSocket :
    c ∈ (s.attachNodeSocket w n socket id now).conns key ↔
      c ∈ s.conns key ∨ key = nodeKey w n ∧ c = s.newConnectionId id := by
  unfold attachNodeSocket conns
  rw [lookup_insert_eq_if]
  by_cases hkey : key = nodeKey w n
  · subst hkey
    rw [if_pos rfl, Option.getD_some, mem_setAdd]
    simp
  · rw [if_neg hkey]
    simp [hkey]

@[simp] lemma connectionSeq_attachNodeSocket :
    (s.attachNodeSocket w n socket id now).connectionSeq =
      s.connectionSeq + if id = none then 1 else 0 := rfl

/-! ## `attachProvider` -/

variable {inst : InstanceId} {actions : Finset ActionName}

lemma lookup_providers (s : Registry) (key : NodeKey) (p : ProviderName) :
    ((s.providerIndex.lookup key).getD ∅).lookup p = s.providerConnId key p := by
  unfold providerConnId
  cases s.providerIndex.lookup key <;> rfl

/-- Taking a provider supersedes the other connection that has it. -/
lemma takeProvider_cases (s : Registry) (key : NodeKey) (p : ProviderName) (c : ConnectionId) :
    (s.takeProvider key p c = s ∧ ∀ c', s.providerConnId key p = some c' → c' = c) ∨
    ∃ c', s.providerConnId key p = some c' ∧ c' ≠ c ∧
      s.takeProvider key p c = s.supersede key c' := by
  unfold takeProvider
  cases hold : s.providerConnId key p with
  | none => exact .inl ⟨rfl, by simp⟩
  | some existing =>
    by_cases hsame : existing = c
    · exact .inl ⟨if_pos hsame, fun c' h => Option.some.inj h ▸ hsame⟩
    · exact .inr ⟨existing, rfl, hsame, if_neg hsame⟩

lemma lookup_takeProvider (hc : c' ≠ c) :
    (s.takeProvider key p c).nodeConnections.lookup c' =
      if s.providerConnId key p = some c' then none else s.nodeConnections.lookup c' := by
  rcases s.takeProvider_cases key p c with ⟨heq, hnone⟩ | ⟨c'', hold, hne, heq⟩
  · rw [heq, if_neg fun h => hc (hnone c' h)]
  · rw [heq, hold]
    simp only [supersede, lookup_erase_eq_if, Option.some.injEq, eq_comm]

lemma mem_conns_takeProvider :
    c' ∈ (s.takeProvider key p c).conns key' ↔
      c' ∈ s.conns key' ∧ ¬ (key' = key ∧ c' ≠ c ∧ s.providerConnId key p = some c') := by
  rcases s.takeProvider_cases key p c with ⟨heq, hnone⟩ | ⟨c'', hold, hne, heq⟩
  · rw [heq]
    constructor
    · intro h
      refine ⟨h, ?_⟩
      rintro ⟨-, hc, hold⟩
      exact hc (hnone c' hold)
    · exact And.left
  · rw [heq, hold]
    refine (mem_getD_lookup_unindex s key key' c'' c').trans (and_congr_right fun _ => ?_)
    refine not_congr (and_congr_right fun _ => ?_)
    constructor
    · rintro rfl
      exact ⟨hne, rfl⟩
    · rintro ⟨-, h⟩
      exact (Option.some.inj h).symm

@[simp] lemma providerIndex_takeProvider :
    (s.takeProvider key p c).providerIndex = s.providerIndex := by
  rcases s.takeProvider_cases key p c with ⟨heq, -⟩ | ⟨c', -, -, heq⟩ <;> rw [heq]
  rfl

@[simp] lemma connectionSeq_takeProvider :
    (s.takeProvider key p c).connectionSeq = s.connectionSeq := by
  rcases s.takeProvider_cases key p c with ⟨heq, -⟩ | ⟨c', -, -, heq⟩ <;> rw [heq]
  rfl

lemma lookup_bindProvider :
    (s.bindProvider key conn p c).lookup p' =
      if p' = p then some c
      else if conn.providerName = some p' ∧ s.providerConnId key p' = some c then none
      else s.providerConnId key p' := by
  have hplain : (((s.providerIndex.lookup key).getD ∅).insert p c).lookup p' =
      if p' = p then some c else s.providerConnId key p' := by
    rw [lookup_insert_eq_if, lookup_providers]
  unfold bindProvider
  cases hname : conn.providerName with
  | none => simp [hplain]
  | some previous =>
    simp only [lookup_providers, Option.some.injEq]
    split
    · next hrenamed =>
      simp only [NodeConn.renamedBy, hname, Option.any_some, Bool.and_eq_true,
        decide_eq_true_eq] at hrenamed
      rw [lookup_insert_eq_if, lookup_erase_eq_if, lookup_providers]
      by_cases hprev : p' = previous
      · subst hprev
        simp [hrenamed.2]
      · simp [hprev, Ne.symm hprev]
    · next hkept =>
      rw [hplain]
      by_cases hp : p' = p
      · rw [if_pos hp, if_pos hp]
      · rw [if_neg hp, if_neg hp, if_neg]
        rintro ⟨rfl, hbound⟩
        exact hkept (by simp [NodeConn.renamedBy, hname, hp, hbound])

lemma attachProvider_of_lookup_eq_none (h : s.nodeConnections.lookup c = none) :
    s.attachProvider w n p inst c actions now = s := by
  unfold attachProvider
  rw [h]

section
variable (hconn : s.nodeConnections.lookup c = some conn)

include hconn

lemma lookup_attachProvider :
    (s.attachProvider w n p inst c actions now).nodeConnections.lookup c' =
      if c' = c then some (conn.register p inst actions now)
      else if s.providerConnId (nodeKey w n) p = some c' then none
      else s.nodeConnections.lookup c' := by
  unfold attachProvider
  simp only [hconn, lookup_insert_eq_if]
  by_cases hc : c' = c
  · rw [if_pos hc, if_pos hc]
  · rw [if_neg hc, if_neg hc, lookup_takeProvider hc]

lemma mem_conns_attachProvider :
    c' ∈ (s.attachProvider w n p inst c actions now).conns key ↔
      c' ∈ s.conns key ∧ ¬ (key = nodeKey w n ∧ c' ≠ c ∧
        s.providerConnId (nodeKey w n) p = some c') := by
  unfold attachProvider
  simp only [hconn]
  exact mem_conns_takeProvider

lemma providerConnId_attachProvider :
    (s.attachProvider w n p inst c actions now).providerConnId key' p' =
      if key' = nodeKey w n ∧ p' = p then some c
      else if key' = nodeKey w n ∧ conn.providerName = some p' ∧
        s.providerConnId key' p' = some c then none
      else s.providerConnId key' p' := by
  have hindex : (s.attachProvider w n p inst c actions now).providerIndex =
      s.providerIndex.insert (nodeKey w n)
        ((s.takeProvider (nodeKey w n) p c).bindProvider (nodeKey w n) conn p c) := by
    unfold attachProvider
    simp only [hconn, providerIndex_takeProvider]
  have hsame : ∀ key p', (s.takeProvider (nodeKey w n) p c).providerConnId key p' =
      s.providerConnId key p' := fun key p' => by
    unfold providerConnId
    rw [providerIndex_takeProvider]
  change ((s.attachProvider w n p inst c actions now).providerIndex.lookup key').bind
    (AList.lookup p') = _
  rw [hindex, lookup_insert_eq_if]
  by_cases hkey : key' = nodeKey w n
  · subst hkey
    rw [if_pos rfl, Option.bind_some, lookup_bindProvider, hsame]
    simp
  · rw [if_neg hkey, if_neg (by simp [hkey]), if_neg (by simp [hkey])]
    rfl

lemma connectionSeq_attachProvider :
    (s.attachProvider w n p inst c actions now).connectionSeq = s.connectionSeq := by
  unfold attachProvider
  simp only [hconn, connectionSeq_takeProvider]

end

/-! ## Readiness, detaching and sending -/

/-- The readiness of a connection is set. -/
def setReady (s : Registry) (c : ConnectionId) (conn : NodeConn) (ready : DeliveryReady) :
    Registry :=
  { s with
    nodeConnections := s.nodeConnections.insert c { conn with deliveryReadyAgentIds := ready } }

lemma currentConnId_eq_some {id : Option ConnectionId} :
    s.currentConnId w n p id = some c ↔
      s.providerConnId (nodeKey w n) p = some c ∧ id.all (· = c) = true := by
  unfold currentConnId
  simp [Option.filter_eq_some_iff]

variable {mode : DeliveryMode} {agentIds : Finset AgentId} {agentId : AgentId}

/-- `setProviderDeliveryReadiness` does nothing, or it sets the readiness of the connection bound
to the provider: to everyone, or to nobody who was not ready. -/
lemma setProviderDeliveryReadiness_cases (s : Registry) (w : WorkspaceId) (n : NodeId)
    (p : ProviderName) (id : Option ConnectionId) (mode : DeliveryMode) :
    s.setProviderDeliveryReadiness w n p id mode = s ∨
    ∃ c conn ready, s.currentConnId w n p id = some c ∧
      s.nodeConnections.lookup c = some conn ∧
      s.setProviderDeliveryReadiness w n p id mode = s.setReady c conn ready ∧
      (mode = .immediate ∨
        ∀ a, ready.has a = true → conn.deliveryReadyAgentIds.has a = true) := by
  unfold setProviderDeliveryReadiness
  cases hcurrent : s.currentConnId w n p id with
  | none => exact .inl rfl
  | some c =>
    cases hconn : s.nodeConnections.lookup c with
    | none => exact .inl (by simp [hconn])
    | some conn =>
      simp only [hconn]
      split
      · refine .inr ⟨c, conn, _, rfl, hconn, rfl, ?_⟩
        cases mode with
        | immediate => exact .inl rfl
        | agentScoped =>
          refine .inr fun a ha => ?_
          cases hready : conn.deliveryReadyAgentIds <;>
            simp [hready, DeliveryReady.has] at ha ⊢
          exact ha
      · exact .inl rfl

/-- `markProviderAgentsDeliveryReady` does nothing, or it adds to those ready on the connection
bound to the provider. -/
lemma markProviderAgentsDeliveryReady_cases (s : Registry) (w : WorkspaceId) (n : NodeId)
    (p : ProviderName) (id : Option ConnectionId) (agentIds : Finset AgentId) :
    s.markProviderAgentsDeliveryReady w n p id agentIds = s ∨
    ∃ c conn ready, s.currentConnId w n p id = some c ∧
      s.nodeConnections.lookup c = some conn ∧
      s.markProviderAgentsDeliveryReady w n p id agentIds = s.setReady c conn ready ∧
      ∀ a, ready.has a = true → a ∈ agentIds ∨ conn.deliveryReadyAgentIds.has a = true := by
  unfold markProviderAgentsDeliveryReady
  cases hcurrent : s.currentConnId w n p id with
  | none => exact .inl rfl
  | some c =>
    cases hconn : s.nodeConnections.lookup c with
    | none => exact .inl (by simp [hconn])
    | some conn =>
      simp only [hconn]
      cases hready : conn.deliveryReadyAgentIds with
      | undefined => exact .inl rfl
      | null => exact .inl rfl
      | set ready =>
        refine .inr ⟨c, conn, _, rfl, hconn, rfl, fun a ha => ?_⟩
        simp only [DeliveryReady.has, Finset.mem_union, decide_eq_true_eq] at ha
        rw [hready]
        rcases ha with ha | ha
        · exact .inr (decide_eq_true ha)
        · exact .inl ha

lemma providerConnId_detachProvider :
    (s.detachProvider w n p).providerConnId key' p' =
      if key' = nodeKey w n ∧ p' = p then none else s.providerConnId key' p' :=
  bind_lookup_unbind s (nodeKey w n) key' p p'

@[simp] lemma conns_detachProvider : (s.detachProvider w n p).conns key = s.conns key := rfl

lemma lookup_detachProvider :
    (s.detachProvider w n p).nodeConnections.lookup c =
      if s.providerConnId (nodeKey w n) p = some c then
        (s.nodeConnections.lookup c).map NodeConn.detached
      else s.nodeConnections.lookup c := by
  unfold detachProvider
  cases hbound : s.providerConnId (nodeKey w n) p with
  | none => simp [hbound]
  | some connId =>
    simp only [hbound, Option.some.injEq]
    cases hconn : s.nodeConnections.lookup connId with
    | none =>
      by_cases hc : connId = c
      · subst hc
        simp [hconn]
      · rw [if_neg hc]
    | some conn =>
      rw [lookup_insert_eq_if]
      by_cases hc : c = connId
      · subst hc
        simp [hconn]
      · rw [if_neg hc, if_neg (Ne.symm hc)]

/-- They differ in the marks of the superseded, the queues and what was sent at most. -/
structure Agrees (s s' : Registry) : Prop where
  nodeConnections : s.nodeConnections = s'.nodeConnections
  nodeConnIndex : s.nodeConnIndex = s'.nodeConnIndex
  providerIndex : s.providerIndex = s'.providerIndex
  connectionSeq : s.connectionSeq = s'.connectionSeq
  departed : s.departed = s'.departed

lemma Agrees.refl (s : Registry) : s.Agrees s := ⟨rfl, rfl, rfl, rfl, rfl⟩

lemma queueFrame_agrees (s : Registry) (key : NodeKey) (p : ProviderName) (message : Message) :
    (s.queueFrame key p message).1.Agrees s := by
  unfold queueFrame
  cases message.invocation <;> exact ⟨rfl, rfl, rfl, rfl, rfl⟩

/-- A send leaves the indexes alone or detaches the provider. -/
lemma sendToProvider_cases (s : Registry) (w : WorkspaceId) (n : NodeId) (p : ProviderName)
    (message : Message) (accepts : Bool) :
    (s.sendToProvider w n p message accepts).1.Agrees s ∨
      (s.sendToProvider w n p message accepts).1.Agrees (s.detachProvider w n p) := by
  unfold sendToProvider
  simp only
  split
  · exact .inl (.refl s)
  · cases s.providerSocket (nodeKey w n) p with
    | none => exact .inl (s.queueFrame_agrees _ _ _)
    | some socket =>
      simp only
      split
      · exact .inl ⟨rfl, rfl, rfl, rfl, rfl⟩
      · exact .inr (queueFrame_agrees _ _ _ _)

/-! ## Disconnects and closes -/

lemma forceDisconnect_frame (s : Registry) (c : ConnectionId) :
    (s.forceDisconnect c).nodeConnIndex = s.nodeConnIndex ∧
      (s.forceDisconnect c).providerIndex = s.providerIndex ∧
      (s.forceDisconnect c).connectionSeq = s.connectionSeq := by
  unfold forceDisconnect
  cases s.nodeConnections.lookup c <;> exact ⟨rfl, rfl, rfl⟩

lemma lookup_forceDisconnect :
    (s.forceDisconnect c).nodeConnections.lookup c' =
      if c' = c then none else s.nodeConnections.lookup c' := by
  unfold forceDisconnect
  cases hconn : s.nodeConnections.lookup c with
  | none =>
    by_cases hc : c' = c
    · subst hc
      rw [if_pos rfl, hconn]
    · rw [if_neg hc]
  | some conn => exact lookup_erase_eq_if

lemma foldl_forceDisconnect_frame (s : Registry) (cs : List ConnectionId) :
    (cs.foldl forceDisconnect s).nodeConnIndex = s.nodeConnIndex ∧
      (cs.foldl forceDisconnect s).providerIndex = s.providerIndex ∧
      (cs.foldl forceDisconnect s).connectionSeq = s.connectionSeq := by
  induction cs generalizing s with
  | nil => exact ⟨rfl, rfl, rfl⟩
  | cons c cs ih =>
    obtain ⟨hindex, hproviders, hseq⟩ := s.forceDisconnect_frame c
    obtain ⟨hindex', hproviders', hseq'⟩ := ih (s.forceDisconnect c)
    exact ⟨hindex'.trans hindex, hproviders'.trans hproviders, hseq'.trans hseq⟩

lemma lookup_foldl_forceDisconnect (cs : List ConnectionId) :
    (cs.foldl forceDisconnect s).nodeConnections.lookup c =
      if c ∈ cs then none else s.nodeConnections.lookup c := by
  induction cs generalizing s with
  | nil => simp
  | cons c' cs ih =>
    rw [List.foldl_cons, ih, lookup_forceDisconnect]
    by_cases hc : c = c'
    · simp [hc]
    · simp [hc]

/-- A disconnect leaves the objects of those that had left before alone. -/
lemma departed_foldl_forceDisconnect {cs : List ConnectionId}
    (hc : s.nodeConnections.lookup c = none) :
    (cs.foldl forceDisconnect s).departed.lookup c = s.departed.lookup c := by
  induction cs generalizing s with
  | nil => rfl
  | cons c' cs ih =>
    have hstep : (s.forceDisconnect c').departed.lookup c = s.departed.lookup c := by
      unfold forceDisconnect
      cases hconn : s.nodeConnections.lookup c' with
      | none => rfl
      | some conn =>
        refine AList.lookup_insert_ne ?_
        rintro rfl
        rw [hc] at hconn
        cases hconn
    rw [List.foldl_cons, ih, hstep]
    rw [lookup_forceDisconnect, hc]
    simp

lemma providerConnId_disconnectNode :
    (s.disconnectNode w n).providerConnId key p =
      if key = nodeKey w n then none else s.providerConnId key p := by
  unfold disconnectNode providerConnId
  simp only [(foldl_forceDisconnect_frame s _).2.1]
  rw [lookup_erase_eq_if]
  split
  · rfl
  · rfl

lemma mem_conns_disconnectNode :
    c ∈ (s.disconnectNode w n).conns key ↔ c ∈ s.conns key ∧ key ≠ nodeKey w n := by
  unfold disconnectNode conns
  simp only [(foldl_forceDisconnect_frame s _).1]
  rw [lookup_erase_eq_if]
  split
  · next h => simp [h]
  · next h => simp [h]

@[simp] lemma connectionSeq_disconnectNode :
    (s.disconnectNode w n).connectionSeq = s.connectionSeq :=
  (foldl_forceDisconnect_frame s _).2.2

lemma mem_connIds :
    c ∈ s.connIds w n ↔ (∃ p, s.providerConnId (nodeKey w n) p = some c) ∨
      ∃ conn, s.nodeConnections.lookup c = some conn ∧ conn.nodeId = n ∧ conn.workspaceId = w := by
  unfold connIds
  simp only [List.mem_dedup, List.mem_append, List.mem_map, List.mem_filter, decide_eq_true_eq]
  refine or_congr ⟨?_, ?_⟩ ⟨?_, ?_⟩
  · rintro ⟨⟨p, c'⟩, hmem, rfl⟩
    refine ⟨p, ?_⟩
    rw [← lookup_providers]
    exact AList.mem_lookup_iff.mpr hmem
  · rintro ⟨p, hp⟩
    rw [← lookup_providers] at hp
    exact ⟨⟨p, c⟩, AList.mem_lookup_iff.mp hp, rfl⟩
  · rintro ⟨⟨c', conn⟩, ⟨hmem, hown⟩, rfl⟩
    exact ⟨conn, AList.mem_lookup_iff.mpr hmem, hown⟩
  · rintro ⟨conn, hconn, hown⟩
    exact ⟨⟨c, conn⟩, ⟨AList.mem_lookup_iff.mp hconn, hown⟩, rfl⟩

/-- Those that go are the node's own, if the bound ones are. -/
lemma lookup_disconnectNode
    (hbound : ∀ p c, s.providerConnId (nodeKey w n) p = some c →
      ∃ conn, s.nodeConnections.lookup c = some conn ∧ conn.key = nodeKey w n) :
    (s.disconnectNode w n).nodeConnections.lookup c =
      (s.nodeConnections.lookup c).filter (·.key ≠ nodeKey w n) := by
  have hgone : (s.disconnectNode w n).nodeConnections.lookup c =
      if c ∈ s.connIds w n then none else s.nodeConnections.lookup c :=
    lookup_foldl_forceDisconnect _
  rw [hgone]
  cases hconn : s.nodeConnections.lookup c with
  | none => simp
  | some conn =>
    have hiff : c ∈ s.connIds w n ↔ conn.key = nodeKey w n := by
      rw [mem_connIds]
      constructor
      · rintro (⟨p, hp⟩ | ⟨conn', hconn', rfl, rfl⟩)
        · obtain ⟨conn', hconn', hkey⟩ := hbound p c hp
          obtain rfl : conn = conn' := Option.some.inj (hconn.symm.trans hconn')
          exact hkey
        · obtain rfl : conn = conn' := Option.some.inj (hconn.symm.trans hconn')
          rfl
      · intro hkey
        obtain ⟨hw, hn⟩ := nodeKey_inj hkey
        exact .inr ⟨conn, hconn, hn, hw⟩
    by_cases hkey : conn.key = nodeKey w n
    · rw [if_pos (hiff.mpr hkey), Option.filter_some_neg]
      simp [hkey]
    · rw [if_neg fun h => hkey (hiff.mp h), Option.filter_some_pos]
      simp [hkey]

lemma Agrees.lookup {s' : Registry} (h : s.Agrees s') :
    s.nodeConnections.lookup c = s'.nodeConnections.lookup c := by
  rw [h.nodeConnections]

lemma onNodeConnectionClose_of_lookup_eq_none (h : s.nodeConnections.lookup c = none) :
    (s.onNodeConnectionClose c).Agrees s := by
  unfold onNodeConnectionClose
  simp only [h]
  exact ⟨rfl, rfl, rfl, rfl, rfl⟩

section
variable (hconn : s.nodeConnections.lookup c = some conn)

include hconn

lemma lookup_onNodeConnectionClose :
    (s.onNodeConnectionClose c).nodeConnections.lookup c' =
      if c' = c then none else s.nodeConnections.lookup c' := by
  unfold onNodeConnectionClose
  simp only [hconn]
  cases conn.providerName with
  | none => exact lookup_erase_eq_if
  | some p =>
    simp only
    split <;> exact lookup_erase_eq_if

lemma mem_conns_onNodeConnectionClose :
    c' ∈ (s.onNodeConnectionClose c).conns key ↔
      c' ∈ s.conns key ∧ ¬ (key = conn.key ∧ c' = c) := by
  unfold onNodeConnectionClose
  simp only [hconn]
  cases conn.providerName with
  | none => exact mem_getD_lookup_unindex s conn.key key c c'
  | some p =>
    simp only
    split <;> exact mem_getD_lookup_unindex s conn.key key c c'

lemma connectionSeq_onNodeConnectionClose :
    (s.onNodeConnectionClose c).connectionSeq = s.connectionSeq := by
  unfold onNodeConnectionClose
  simp only [hconn]
  cases conn.providerName with
  | none => rfl
  | some p =>
    simp only
    split <;> rfl

lemma departed_onNodeConnectionClose (hne : c' ≠ c) :
    (s.onNodeConnectionClose c).departed.lookup c' = s.departed.lookup c' := by
  unfold onNodeConnectionClose
  simp only [hconn]
  cases conn.providerName with
  | none => exact AList.lookup_insert_ne hne
  | some p =>
    simp only
    split <;> exact AList.lookup_insert_ne hne

lemma providerConnId_onNodeConnectionClose :
    (s.onNodeConnectionClose c).providerConnId key p =
      if key = conn.key ∧ conn.providerName = some p ∧ s.providerConnId key p = some c then none
      else s.providerConnId key p := by
  unfold onNodeConnectionClose
  simp only [hconn]
  cases hname : conn.providerName with
  | none => simp [providerConnId]
  | some previous =>
    simp only [Option.some.injEq]
    split
    · next hheld =>
      refine (bind_lookup_unbind s conn.key key previous p).trans ?_
      by_cases h : key = conn.key ∧ p = previous
      · obtain ⟨rfl, rfl⟩ := h
        rw [if_pos ⟨rfl, rfl⟩, if_pos ⟨rfl, rfl, hheld⟩]
      · rw [if_neg h, if_neg]
        rintro ⟨hkey, hp, -⟩
        exact h ⟨hkey, hp.symm⟩
    · next hother =>
      rw [if_neg]
      · rfl
      · rintro ⟨rfl, rfl, hheld⟩
        exact hother hheld

end

/-! ## The indexes fit together -/

/-- A provider is bound to the connection of its node that carries its name, a node's index lists
its connections, a connection without a provider has no readiness, and the ids given out are not
above the counter. -/
structure Inv (s : Registry) : Prop where
  bound : ∀ key p c, s.providerConnId key p = some c →
    ∃ conn, s.nodeConnections.lookup c = some conn ∧ conn.key = key ∧ conn.providerName = some p
  indexed : ∀ key c, c ∈ s.conns key ↔
    ∃ conn, s.nodeConnections.lookup c = some conn ∧ conn.key = key
  named : ∀ c conn p, s.nodeConnections.lookup c = some conn → conn.providerName = some p →
    s.providerConnId conn.key p = some c ∧ conn.instanceId ≠ none
  unset : ∀ c conn, s.nodeConnections.lookup c = some conn → conn.providerName = none →
    conn.deliveryReadyAgentIds = .undefined
  issued : ∀ k, s.nodeConnections.lookup (.nconn k) ≠ none → k ≤ s.connectionSeq

lemma inv_empty : empty.Inv where
  bound key p c h := by simp [empty, providerConnId] at h
  indexed key c := by simp [empty, conns]
  named c conn p h := by simp [empty] at h
  unset c conn h := by simp [empty] at h
  issued k h := by simp [empty] at h

lemma Inv.of_agrees {s' : Registry} (h : s.Inv) (ha : s'.Agrees s) : s'.Inv where
  bound key p c hp := by
    rw [ha.nodeConnections]
    exact h.bound key p c (by simpa [providerConnId, ha.providerIndex] using hp)
  indexed key c := by
    rw [ha.nodeConnections]
    simpa [conns, ha.nodeConnIndex] using h.indexed key c
  named c conn p hc hname := by
    simpa [providerConnId, ha.providerIndex] using h.named c conn p (ha.nodeConnections ▸ hc) hname
  unset c conn hc := h.unset c conn (ha.nodeConnections ▸ hc)
  issued k hk := by
    rw [ha.connectionSeq]
    exact h.issued k (ha.nodeConnections ▸ hk)

/-- The connection a provider is bound to is known by any entry of it. -/
lemma Inv.of_bound (h : s.Inv) (hp : s.providerConnId key p = some c)
    (hconn : s.nodeConnections.lookup c = some conn) :
    conn.key = key ∧ conn.providerName = some p := by
  obtain ⟨conn', hconn', hkey, hname⟩ := h.bound key p c hp
  obtain rfl : conn = conn' := Option.some.inj (hconn.symm.trans hconn')
  exact ⟨hkey, hname⟩

/-- A connection is bound to one provider. -/
lemma Inv.bound_unique (h : s.Inv) (hp : s.providerConnId key p = some c)
    (hp' : s.providerConnId key' p' = some c) : key = key' ∧ p = p' := by
  obtain ⟨conn, hconn, hkey, hname⟩ := h.bound key p c hp
  obtain ⟨hkey', hname'⟩ := h.of_bound hp' hconn
  exact ⟨hkey.symm.trans hkey', Option.some.inj (hname.symm.trans hname')⟩

/-- An `nconn_N` that is yet to be given out is nobody's. -/
lemma Inv.fresh (h : s.Inv) : s.nodeConnections.lookup (s.newConnectionId none) = none := by
  by_contra hne
  have hle : s.connectionSeq + 1 ≤ s.connectionSeq := h.issued _ hne
  omega

lemma Inv.attachNodeSocket (h : s.Inv)
    (hfresh : s.nodeConnections.lookup (s.newConnectionId id) = none) :
    (s.attachNodeSocket w n socket id now).Inv where
  bound key p c hp := by
    obtain ⟨conn, hconn, hown⟩ := h.bound key p c hp
    have hne : c ≠ s.newConnectionId id := by
      rintro rfl
      rw [hfresh] at hconn
      cases hconn
    rw [lookup_attachNodeSocket, if_neg hne]
    exact ⟨conn, hconn, hown⟩
  indexed key c := by
    rw [mem_conns_attachNodeSocket, h.indexed, lookup_attachNodeSocket]
    by_cases hc : c = s.newConnectionId id
    · subst hc
      simp [hfresh, NodeConn.key, eq_comm]
    · simp [hc]
  named c conn p hconn hname := by
    rw [lookup_attachNodeSocket] at hconn
    split at hconn
    · obtain rfl := Option.some.inj hconn
      cases hname
    · exact h.named c conn p hconn hname
  unset c conn hconn hname := by
    rw [lookup_attachNodeSocket] at hconn
    split at hconn
    · obtain rfl := Option.some.inj hconn
      rfl
    · exact h.unset c conn hconn hname
  issued k hk := by
    rw [lookup_attachNodeSocket] at hk
    rw [connectionSeq_attachNodeSocket]
    split at hk
    · next hid =>
      cases id with
      | none =>
        obtain rfl : k = s.connectionSeq + 1 := ConnectionId.nconn.inj hid
        simp
      | some id => cases hid
    · exact Nat.le_add_right_of_le (h.issued k hk)

lemma Inv.attachProvider (h : s.Inv)
    (hown : ∀ conn, s.nodeConnections.lookup c = some conn → conn.key = nodeKey w n) :
    (s.attachProvider w n p inst c actions now).Inv := by
  cases hconn : s.nodeConnections.lookup c with
  | none =>
    rw [attachProvider_of_lookup_eq_none hconn]
    exact h
  | some conn =>
    have hkey := hown conn hconn
    refine
      { bound := fun key' p' c' hp => ?_
        indexed := fun key' c' => ?_
        named := fun c' conn' p' hconn' hname => ?_
        unset := fun c' conn' hconn' hname => ?_
        issued := fun k hk => ?_ }
    · rw [providerConnId_attachProvider hconn] at hp
      rw [lookup_attachProvider hconn]
      split at hp
      · next hthis =>
        obtain rfl := Option.some.inj hp
        rw [if_pos rfl]
        exact ⟨_, rfl, hkey.trans hthis.1.symm, by rw [hthis.2]; rfl⟩
      · next hother =>
        split at hp
        · cases hp
        · next hkept =>
          obtain ⟨conn', hconn', hkey', hname'⟩ := h.bound key' p' c' hp
          have hc : c' ≠ c := by
            rintro rfl
            obtain rfl : conn = conn' := Option.some.inj (hconn.symm.trans hconn')
            exact hkept ⟨hkey'.symm.trans hkey, hname', hp⟩
          rw [if_neg hc, if_neg]
          · exact ⟨conn', hconn', hkey', hname'⟩
          · intro hold
            exact hother (h.bound_unique hp hold)
    · rw [mem_conns_attachProvider hconn, lookup_attachProvider hconn, h.indexed]
      by_cases hc : c' = c
      · subst hc
        simp [hconn, NodeConn.register, NodeConn.key]
      · rw [if_neg hc]
        by_cases hold : s.providerConnId (nodeKey w n) p = some c'
        · rw [if_pos hold]
          constructor
          · rintro ⟨⟨conn', hconn', hkey'⟩, hnot⟩
            exact absurd ⟨hkey'.symm.trans (h.of_bound hold hconn').1, hc, hold⟩ hnot
          · rintro ⟨conn', hconn', -⟩
            cases hconn'
        · simp [hold]
    · rw [lookup_attachProvider hconn] at hconn'
      rw [providerConnId_attachProvider hconn]
      split at hconn'
      · next hc =>
        obtain rfl := Option.some.inj hconn'
        obtain rfl : p = p' := Option.some.inj hname
        rw [if_pos ⟨hkey, rfl⟩, hc]
        exact ⟨rfl, Option.some_ne_none _⟩
      · next hc =>
        split at hconn'
        · cases hconn'
        · next hother =>
          obtain ⟨hp', hinst⟩ := h.named c' conn' p' hconn' hname
          rw [if_neg, if_neg]
          · exact ⟨hp', hinst⟩
          · rintro ⟨-, -, hheld⟩
            exact hc (Option.some.inj (hp'.symm.trans hheld))
          · rintro ⟨hkey', rfl⟩
            exact hother (hkey' ▸ hp')
    · rw [lookup_attachProvider hconn] at hconn'
      split at hconn'
      · obtain rfl := Option.some.inj hconn'
        cases hname
      · split at hconn'
        · cases hconn'
        · exact h.unset c' conn' hconn' hname
    · rw [lookup_attachProvider hconn] at hk
      rw [connectionSeq_attachProvider hconn]
      split at hk
      · next hc => exact h.issued k (by rw [hc, hconn]; simp)
      · split at hk
        · cases hk rfl
        · exact h.issued k hk

lemma lookup_setReady {ready : DeliveryReady} :
    (s.setReady c conn ready).nodeConnections.lookup c' =
      if c' = c then some { conn with deliveryReadyAgentIds := ready }
      else s.nodeConnections.lookup c' :=
  lookup_insert_eq_if

lemma Inv.setReady (h : s.Inv) {ready : DeliveryReady}
    (hconn : s.nodeConnections.lookup c = some conn) (hp : s.providerConnId key p = some c) :
    (s.setReady c conn ready).Inv where
  bound key' p' c' hp' := by
    rw [lookup_setReady]
    obtain ⟨conn', hconn', hown⟩ := h.bound key' p' c' hp'
    split
    · next hc =>
      subst hc
      obtain rfl : conn = conn' := Option.some.inj (hconn.symm.trans hconn')
      exact ⟨_, rfl, hown⟩
    · exact ⟨conn', hconn', hown⟩
  indexed key' c' := by
    rw [lookup_setReady]
    refine (h.indexed key' c').trans ?_
    by_cases hc : c' = c
    · subst hc
      simp [hconn, NodeConn.key]
    · rw [if_neg hc]
  named c' conn' p' hconn' hname := by
    rw [lookup_setReady] at hconn'
    split at hconn'
    · next hc =>
      subst hc
      obtain rfl := Option.some.inj hconn'
      exact h.named c' conn p' hconn hname
    · exact h.named c' conn' p' hconn' hname
  unset c' conn' hconn' hname := by
    rw [lookup_setReady] at hconn'
    split at hconn'
    · obtain rfl := Option.some.inj hconn'
      have hnamed := (h.of_bound hp hconn).2
      simp only [hnamed] at hname
      cases hname
    · exact h.unset c' conn' hconn' hname
  issued k hk := by
    rw [lookup_setReady] at hk
    split at hk
    · next hc => exact h.issued k (by rw [hc, hconn]; simp)
    · exact h.issued k hk

lemma Inv.setProviderDeliveryReadiness (h : s.Inv) {id : Option ConnectionId} :
    (s.setProviderDeliveryReadiness w n p id mode).Inv := by
  rcases s.setProviderDeliveryReadiness_cases w n p id mode with
    heq | ⟨c, conn, ready, hcurrent, hconn, heq, -⟩ <;> rw [heq]
  · exact h
  · exact h.setReady hconn (currentConnId_eq_some.mp hcurrent).1

lemma Inv.markProviderAgentsDeliveryReady (h : s.Inv) {id : Option ConnectionId} :
    (s.markProviderAgentsDeliveryReady w n p id agentIds).Inv := by
  rcases s.markProviderAgentsDeliveryReady_cases w n p id agentIds with
    heq | ⟨c, conn, ready, hcurrent, hconn, heq, -⟩ <;> rw [heq]
  · exact h
  · exact h.setReady hconn (currentConnId_eq_some.mp hcurrent).1

lemma Inv.detachProvider (h : s.Inv) : (s.detachProvider w n p).Inv where
  bound key' p' c' hp := by
    rw [providerConnId_detachProvider] at hp
    split at hp
    · cases hp
    · next hother =>
      rw [lookup_detachProvider, if_neg fun hbound => hother (h.bound_unique hp hbound)]
      exact h.bound key' p' c' hp
  indexed key' c' := by
    rw [conns_detachProvider, lookup_detachProvider, h.indexed]
    split
    · simp [NodeConn.detached, NodeConn.key]
    · rfl
  named c' conn' p' hconn' hname := by
    rw [lookup_detachProvider] at hconn'
    rw [providerConnId_detachProvider]
    split at hconn'
    · obtain ⟨conn, -, rfl⟩ := Option.map_eq_some_iff.mp hconn'
      cases hname
    · next hother =>
      obtain ⟨hp', hinst⟩ := h.named c' conn' p' hconn' hname
      rw [if_neg]
      · exact ⟨hp', hinst⟩
      · rintro ⟨hkey, rfl⟩
        exact hother (hkey ▸ hp')
  unset c' conn' hconn' hname := by
    rw [lookup_detachProvider] at hconn'
    split at hconn'
    · obtain ⟨conn, -, rfl⟩ := Option.map_eq_some_iff.mp hconn'
      rfl
    · exact h.unset c' conn' hconn' hname
  issued k hk := by
    rw [lookup_detachProvider] at hk
    refine h.issued k fun hnone => hk ?_
    rw [hnone]
    simp

lemma Inv.sendToProvider (h : s.Inv) {message : Message} {accepts : Bool} :
    (s.sendToProvider w n p message accepts).1.Inv := by
  rcases s.sendToProvider_cases w n p message accepts with ha | ha
  · exact h.of_agrees ha
  · exact h.detachProvider.of_agrees ha

lemma Inv.bound_key (h : s.Inv) (p : ProviderName) (c : ConnectionId)
    (hp : s.providerConnId key p = some c) :
    ∃ conn, s.nodeConnections.lookup c = some conn ∧ conn.key = key := by
  obtain ⟨conn, hconn, hkey, -⟩ := h.bound key p c hp
  exact ⟨conn, hconn, hkey⟩

lemma Inv.disconnectNode (h : s.Inv) : (s.disconnectNode w n).Inv where
  bound key' p' c' hp := by
    rw [providerConnId_disconnectNode] at hp
    split at hp
    · cases hp
    · next hkey =>
      obtain ⟨conn, hconn, rfl, hname⟩ := h.bound key' p' c' hp
      rw [lookup_disconnectNode h.bound_key, hconn, Option.filter_some_pos (by simp [hkey])]
      exact ⟨conn, rfl, rfl, hname⟩
  indexed key' c' := by
    rw [mem_conns_disconnectNode, lookup_disconnectNode h.bound_key, h.indexed]
    simp only [Option.filter_eq_some_iff, ne_eq, decide_eq_true_eq]
    constructor
    · rintro ⟨⟨conn, hconn, rfl⟩, hkey⟩
      exact ⟨conn, ⟨hconn, hkey⟩, rfl⟩
    · rintro ⟨conn, ⟨hconn, hkey⟩, rfl⟩
      exact ⟨⟨conn, hconn, rfl⟩, hkey⟩
  named c' conn' p' hconn' hname := by
    rw [lookup_disconnectNode h.bound_key, Option.filter_eq_some_iff] at hconn'
    obtain ⟨hconn', hkey⟩ := hconn'
    rw [providerConnId_disconnectNode, if_neg (by simpa using hkey)]
    exact h.named c' conn' p' hconn' hname
  unset c' conn' hconn' := by
    rw [lookup_disconnectNode h.bound_key, Option.filter_eq_some_iff] at hconn'
    exact h.unset c' conn' hconn'.1
  issued k hk := by
    rw [lookup_disconnectNode h.bound_key] at hk
    rw [connectionSeq_disconnectNode]
    refine h.issued k fun hnone => hk ?_
    rw [hnone, Option.filter_none]

lemma Inv.onNodeConnectionClose (h : s.Inv) : (s.onNodeConnectionClose c).Inv := by
  cases hconn : s.nodeConnections.lookup c with
  | none => exact h.of_agrees (onNodeConnectionClose_of_lookup_eq_none hconn)
  | some conn =>
    refine
      { bound := fun key' p' c' hp => ?_
        indexed := fun key' c' => ?_
        named := fun c' conn' p' hconn' hname => ?_
        unset := fun c' conn' hconn' hname => ?_
        issued := fun k hk => ?_ }
    · rw [providerConnId_onNodeConnectionClose hconn] at hp
      split at hp
      · cases hp
      · next hkept =>
        rw [lookup_onNodeConnectionClose hconn, if_neg]
        · exact h.bound key' p' c' hp
        · rintro rfl
          obtain ⟨hkey, hname⟩ := h.of_bound hp hconn
          exact hkept ⟨hkey.symm, hname, hp⟩
    · rw [mem_conns_onNodeConnectionClose hconn, lookup_onNodeConnectionClose hconn, h.indexed]
      by_cases hc : c' = c
      · subst hc
        simp [hconn, eq_comm]
      · simp [hc]
    · rw [lookup_onNodeConnectionClose hconn] at hconn'
      rw [providerConnId_onNodeConnectionClose hconn]
      split at hconn'
      · cases hconn'
      · next hc =>
        obtain ⟨hp', hinst⟩ := h.named c' conn' p' hconn' hname
        rw [if_neg]
        · exact ⟨hp', hinst⟩
        · rintro ⟨-, -, hheld⟩
          exact hc (Option.some.inj (hp'.symm.trans hheld))
    · rw [lookup_onNodeConnectionClose hconn] at hconn'
      split at hconn'
      · cases hconn'
      · exact h.unset c' conn' hconn' hname
    · rw [lookup_onNodeConnectionClose hconn] at hk
      rw [connectionSeq_onNodeConnectionClose hconn]
      split at hk
      · cases hk rfl
      · exact h.issued k hk

lemma Inv.deregisterFrame (h : s.Inv) : (s.deregisterFrame c p).Inv := by
  unfold Registry.deregisterFrame
  cases s.handleConn c with
  | none => exact h
  | some conn =>
    simp only
    split
    · exact h
    · exact h.detachProvider

end Registry

end Realtime
