import Relaycast.Realtime.Bindings

/-!
# Runs of the registry

A run is the list of the calls made, latest first.  The calls are taken in any order, under what
the callers of the registry keep to: a host gives a socket an id that no connection has, and
`attachProvider` names the node that the connection is attached to.

Of an agent that is ready, the call that made it so is found in the run by going back as long as
the connection keeps its provider and its instance: `ready_step` goes back over one call.  A
connection that has been superseded stays `Gone` until a host gives its id away again.
-/

namespace Realtime

/-- A call on the registry.  `deregister` is the frame of that name, `close` a closed socket. -/
inductive Operation
  | attachNodeSocket (workspaceId : WorkspaceId) (nodeId : NodeId) (socket : Socket)
      (connectionId : Option String) (now : ℕ)
  | attachProvider (workspaceId : WorkspaceId) (nodeId : NodeId) (providerName : ProviderName)
      (instanceId : InstanceId) (connectionId : ConnectionId)
      (callerAwareActions : Finset ActionName) (now : ℕ)
  | setReadiness (workspaceId : WorkspaceId) (nodeId : NodeId) (providerName : ProviderName)
      (connectionId : Option ConnectionId) (mode : DeliveryMode)
  | markReady (workspaceId : WorkspaceId) (nodeId : NodeId) (providerName : ProviderName)
      (connectionId : Option ConnectionId) (agentIds : Finset AgentId)
  | detachProvider (workspaceId : WorkspaceId) (nodeId : NodeId) (providerName : ProviderName)
  | send (workspaceId : WorkspaceId) (nodeId : NodeId) (providerName : ProviderName)
      (message : Message) (accepts : Bool)
  | disconnectNode (workspaceId : WorkspaceId) (nodeId : NodeId)
  | deregister (connectionId : ConnectionId) (providerName : ProviderName)
  | close (connectionId : ConnectionId)

namespace Registry

/-- The registry after one more call. -/
def apply (s : Registry) : Operation → Registry
  | .attachNodeSocket w n socket id now => s.attachNodeSocket w n socket id now
  | .attachProvider w n p inst c actions now => s.attachProvider w n p inst c actions now
  | .setReadiness w n p id mode => s.setProviderDeliveryReadiness w n p id mode
  | .markReady w n p id agentIds => s.markProviderAgentsDeliveryReady w n p id agentIds
  | .detachProvider w n p => s.detachProvider w n p
  | .send w n p message accepts => (s.sendToProvider w n p message accepts).1
  | .disconnectNode w n => s.disconnectNode w n
  | .deregister c p => s.deregisterFrame c p
  | .close c => s.onNodeConnectionClose c

/-- What the callers keep to. -/
def Allows (s : Registry) : Operation → Prop
  | .attachNodeSocket _ _ _ (some id) _ => s.nodeConnections.lookup (.socket id) = none
  | .attachProvider w n _ _ c _ _ =>
    ∀ conn ∈ s.nodeConnections.lookup c, conn.workspaceId = w ∧ conn.nodeId = n
  | _ => True

instance (s : Registry) : DecidablePred s.Allows
  | .attachNodeSocket _ _ _ none _ => .isTrue trivial
  | .attachNodeSocket _ _ _ (some id) _ =>
    inferInstanceAs (Decidable (s.nodeConnections.lookup (.socket id) = none))
  | .attachProvider w n _ _ c _ _ =>
    inferInstanceAs (Decidable (∀ conn ∈ s.nodeConnections.lookup c,
      conn.workspaceId = w ∧ conn.nodeId = n))
  | .setReadiness .. => .isTrue trivial
  | .markReady .. => .isTrue trivial
  | .detachProvider .. => .isTrue trivial
  | .send .. => .isTrue trivial
  | .disconnectNode .. => .isTrue trivial
  | .deregister .. => .isTrue trivial
  | .close .. => .isTrue trivial

/-- The registry after the calls, latest first. -/
def after : List Operation → Registry
  | [] => empty
  | op :: ops => (after ops).apply op

/-- Every call of a run is one its callers may make. -/
def Legal : List Operation → Prop
  | [] => True
  | op :: ops => Legal ops ∧ (after ops).Allows op

instance decidableLegal : DecidablePred Legal
  | [] => .isTrue trivial
  | op :: ops =>
    have := decidableLegal ops
    inferInstanceAs (Decidable (Legal ops ∧ (after ops).Allows op))

variable {s : Registry} {op : Operation} {ops : List Operation} {key : NodeKey}
  {w : WorkspaceId} {n : NodeId} {p p' : ProviderName} {inst : InstanceId} {c c' : ConnectionId}
  {conn : NodeConn} {agentId : AgentId}

/-- Every call keeps the indexes together. -/
lemma Inv.apply (h : s.Inv) (hop : s.Allows op) : (s.apply op).Inv := by
  cases op with
  | attachNodeSocket w n socket id now =>
    cases id with
    | none => exact h.attachNodeSocket h.fresh
    | some id => exact h.attachNodeSocket hop
  | attachProvider w n p inst c actions now =>
    refine h.attachProvider fun conn hconn => ?_
    obtain ⟨rfl, rfl⟩ := hop conn hconn
    rfl
  | setReadiness w n p id mode => exact h.setProviderDeliveryReadiness
  | markReady w n p id agentIds => exact h.markProviderAgentsDeliveryReady
  | detachProvider w n p => exact h.detachProvider
  | send w n p message accepts => exact h.sendToProvider
  | disconnectNode w n => exact h.disconnectNode
  | deregister c p => exact h.deregisterFrame
  | close c => exact h.onNodeConnectionClose

/-- The indexes fit together in every run. -/
theorem inv_after (h : Legal ops) : (after ops).Inv := by
  induction ops with
  | nil => exact inv_empty
  | cons op ops ih => exact (ih h.1).apply h.2

/-! ## Who is ready -/

/-- The connection is bound to the provider, under the instance. -/
def Carries (s : Registry) (key : NodeKey) (p : ProviderName) (inst : InstanceId)
    (c : ConnectionId) : Prop :=
  s.providerConnId key p = some c ∧
    ∃ conn, s.nodeConnections.lookup c = some conn ∧ conn.instanceId = some inst

/-- The agent is ready on the connection. -/
def ReadyOn (s : Registry) (c : ConnectionId) (agentId : AgentId) : Prop :=
  ∃ conn, s.nodeConnections.lookup c = some conn ∧ conn.deliveryReadyAgentIds.has agentId = true

/-- The call marks the agent ready on the connection, or sets the connection's mode to
immediate. -/
def Readies (s : Registry) (c : ConnectionId) (agentId : AgentId) : Operation → Prop
  | .setReadiness w n p id mode => s.currentConnId w n p id = some c ∧ mode = .immediate
  | .markReady w n p id agentIds => s.currentConnId w n p id = some c ∧ agentId ∈ agentIds
  | _ => False

/-- Going back over a call that leaves the connection as it was. -/
lemma ready_of_lookup_eq {s' : Registry} (hc : s'.Carries key p inst c) (hr : s'.ReadyOn c agentId)
    (hp : s.providerConnId key p = some c)
    (hlookup : s'.nodeConnections.lookup c = s.nodeConnections.lookup c) :
    s.Carries key p inst c ∧ s.ReadyOn c agentId := by
  obtain ⟨-, hcarries⟩ := hc
  unfold ReadyOn at hr
  rw [hlookup] at hcarries hr
  exact ⟨⟨hp, hcarries⟩, hr⟩

lemma ready_of_agrees {s' : Registry} (ha : s'.Agrees s) (hc : s'.Carries key p inst c)
    (hr : s'.ReadyOn c agentId) : s.Carries key p inst c ∧ s.ReadyOn c agentId := by
  refine ready_of_lookup_eq hc hr ?_ ha.lookup
  have hp := hc.1
  unfold providerConnId at hp ⊢
  rwa [ha.providerIndex] at hp

/-- Going back over a call that sets the readiness of a connection. -/
lemma ready_setReady {ready : DeliveryReady}
    (hconn : s.nodeConnections.lookup c' = some conn)
    (hc : (s.setReady c' conn ready).Carries key p inst c)
    (hr : (s.setReady c' conn ready).ReadyOn c agentId) :
    s.Carries key p inst c ∧
      (s.ReadyOn c agentId ∨ c = c' ∧ ready.has agentId = true) := by
  obtain ⟨hp, conn', hconn', hinst⟩ := hc
  obtain ⟨conn'', hconn'', hready⟩ := hr
  rw [lookup_setReady] at hconn' hconn''
  by_cases hcc : c = c'
  · subst hcc
    rw [if_pos rfl, Option.some.injEq] at hconn' hconn''
    subst hconn' hconn''
    exact ⟨⟨hp, conn, hconn, hinst⟩, .inr ⟨rfl, hready⟩⟩
  · rw [if_neg hcc] at hconn' hconn''
    exact ⟨⟨hp, conn', hconn', hinst⟩, .inl ⟨conn'', hconn'', hready⟩⟩

lemma ready_detachProvider (hi : s.Inv) (hc : (s.detachProvider w n p').Carries key p inst c)
    (hr : (s.detachProvider w n p').ReadyOn c agentId) :
    s.Carries key p inst c ∧ s.ReadyOn c agentId := by
  have hp := hc.1
  rw [providerConnId_detachProvider] at hp
  split at hp
  · cases hp
  · next hother =>
    refine ready_of_lookup_eq hc hr hp ?_
    rw [lookup_detachProvider, if_neg fun hbound => hother (hi.bound_unique hp hbound)]

/-- Going back over an `attachProvider`: readiness was kept, so it was the same provider and the
same instance. -/
lemma ready_attachProvider {inst' : InstanceId} {actions : Finset ActionName}
    {now : ℕ} (hi : s.Inv) (hconn : s.nodeConnections.lookup c' = some conn)
    (hkey : conn.key = nodeKey w n)
    (hc : (s.attachProvider w n p' inst' c' actions now).Carries key p inst c)
    (hr : (s.attachProvider w n p' inst' c' actions now).ReadyOn c agentId) :
    s.Carries key p inst c ∧ s.ReadyOn c agentId := by
  have hp := hc.1
  rw [providerConnId_attachProvider hconn] at hp
  split at hp
  · next hthis =>
    obtain ⟨rfl, rfl⟩ := hthis
    obtain rfl := Option.some.inj hp
    obtain ⟨-, conn', hconn', hinst⟩ := hc
    obtain ⟨conn'', hconn'', hready⟩ := hr
    rw [lookup_attachProvider hconn, if_pos rfl, Option.some.injEq] at hconn' hconn''
    subst hconn' hconn''
    simp only [NodeConn.register, Option.some.injEq] at hinst hready
    subst hinst
    split at hready
    · cases hready
    · next hkept =>
      obtain ⟨hname, hsame⟩ : conn.renamedBy p = false ∧
          conn.instanceId.any (· ≠ inst') = false := by
        simpa using hkept
      cases hprovider : conn.providerName with
      | none =>
        rw [hi.unset c' conn hconn hprovider] at hready
        cases hready
      | some previous =>
        obtain rfl : previous = p := by
          simpa [NodeConn.renamedBy, hprovider] using hname
        obtain ⟨hbound, hinst⟩ := hi.named c' conn previous hconn hprovider
        obtain ⟨inst'', hinst''⟩ := Option.ne_none_iff_exists'.mp hinst
        obtain rfl : inst'' = inst' := by
          simpa [hinst''] using hsame
        exact ⟨⟨hkey ▸ hbound, conn, hconn, hinst''⟩, conn, hconn, hready⟩
  · next hother =>
    split at hp
    · cases hp
    · next hkept =>
      have hne : c ≠ c' := by
        rintro rfl
        obtain ⟨hown, hname⟩ := hi.of_bound hp hconn
        exact hkept ⟨hown.symm.trans hkey, hname, hp⟩
      refine ready_of_lookup_eq hc hr hp ?_
      rw [lookup_attachProvider hconn, if_neg hne, if_neg fun hold => hother ?_]
      exact hi.bound_unique hp hold

/-- **One call back.**  An agent ready on a connection that has its provider was made so by the
last call, or it was ready before it, on the connection with the same provider and instance. -/
lemma ready_step (hi : s.Inv) (hop : s.Allows op) (hc : (s.apply op).Carries key p inst c)
    (hr : (s.apply op).ReadyOn c agentId) :
    s.Readies c agentId op ∨ s.Carries key p inst c ∧ s.ReadyOn c agentId := by
  cases op with
  | attachNodeSocket w n socket id now =>
    refine .inr (ready_of_lookup_eq hc hr hc.1 ?_)
    obtain ⟨conn, hconn, -⟩ := hi.bound key p c hc.1
    have hfresh : s.nodeConnections.lookup (s.newConnectionId id) = none := by
      cases id with
      | none => exact hi.fresh
      | some id => exact hop
    refine (lookup_attachNodeSocket s w n socket id now c).trans (if_neg ?_)
    rintro rfl
    rw [hfresh] at hconn
    cases hconn
  | attachProvider w n p' inst' c' actions now =>
    cases hconn : s.nodeConnections.lookup c' with
    | none =>
      have heq : s.apply (.attachProvider w n p' inst' c' actions now) = s :=
        attachProvider_of_lookup_eq_none hconn
      rw [heq] at hc hr
      exact .inr ⟨hc, hr⟩
    | some conn =>
      obtain ⟨rfl, rfl⟩ := hop conn hconn
      exact .inr (ready_attachProvider hi hconn rfl hc hr)
  | setReadiness w n p' id mode =>
    rcases s.setProviderDeliveryReadiness_cases w n p' id mode with
      heq | ⟨c', conn, ready, hcurrent, hconn, heq, hready⟩
    · simp only [apply, heq] at hc hr
      exact .inr ⟨hc, hr⟩
    · simp only [apply, heq] at hc hr
      obtain ⟨hcarries, hon | ⟨rfl, hhas⟩⟩ := ready_setReady hconn hc hr
      · exact .inr ⟨hcarries, hon⟩
      · rcases hready with hmode | hready
        · exact .inl ⟨hcurrent, hmode⟩
        · exact .inr ⟨hcarries, conn, hconn, hready agentId hhas⟩
  | markReady w n p' id agentIds =>
    rcases s.markProviderAgentsDeliveryReady_cases w n p' id agentIds with
      heq | ⟨c', conn, ready, hcurrent, hconn, heq, hready⟩
    · simp only [apply, heq] at hc hr
      exact .inr ⟨hc, hr⟩
    · simp only [apply, heq] at hc hr
      obtain ⟨hcarries, hon | ⟨rfl, hhas⟩⟩ := ready_setReady hconn hc hr
      · exact .inr ⟨hcarries, hon⟩
      · rcases hready agentId hhas with hmem | hready
        · exact .inl ⟨hcurrent, hmem⟩
        · exact .inr ⟨hcarries, conn, hconn, hready⟩
  | detachProvider w n p' => exact .inr (ready_detachProvider hi hc hr)
  | send w n p' message accepts =>
    rcases s.sendToProvider_cases w n p' message accepts with ha | ha
    · exact .inr (ready_of_agrees ha hc hr)
    · obtain ⟨hc', hr'⟩ := ready_of_agrees ha hc hr
      exact .inr (ready_detachProvider hi hc' hr')
  | disconnectNode w n =>
    have hp := hc.1
    rw [apply, providerConnId_disconnectNode] at hp
    split at hp
    · cases hp
    · next hkey =>
      obtain ⟨conn, hconn, hown, -⟩ := hi.bound key p c hp
      refine .inr (ready_of_lookup_eq hc hr hp ?_)
      rw [apply, lookup_disconnectNode hi.bound_key, hconn, Option.filter_some_pos]
      simp [hown, hkey]
  | deregister c' p' =>
    simp only [apply, deregisterFrame] at hc hr
    cases hhandle : s.handleConn c' with
    | none =>
      rw [hhandle] at hc hr
      exact .inr ⟨hc, hr⟩
    | some conn =>
      simp only [hhandle] at hc hr
      split at hc
      · next hrefused =>
        rw [if_pos hrefused] at hr
        exact .inr ⟨hc, hr⟩
      · next hpassed =>
        rw [if_neg hpassed] at hr
        exact .inr (ready_detachProvider hi hc hr)
  | close c' =>
    cases hconn : s.nodeConnections.lookup c' with
    | none =>
      exact .inr (ready_of_agrees (onNodeConnectionClose_of_lookup_eq_none hconn) hc hr)
    | some conn =>
      have hp := hc.1
      obtain ⟨conn', hconn', -⟩ := hc.2
      rw [apply, lookup_onNodeConnectionClose hconn] at hconn'
      rw [apply, providerConnId_onNodeConnectionClose hconn] at hp
      split at hconn'
      · cases hconn'
      · next hne =>
        split at hp
        · cases hp
        · refine .inr (ready_of_lookup_eq hc hr hp ?_)
          rw [apply, lookup_onNodeConnectionClose hconn, if_neg hne]

/-- An agent that is ready is so on the connection bound to the provider. -/
lemma carries_of_ready (hi : s.Inv)
    (hready : s.isProviderAgentDeliveryReady w n p agentId = true) :
    ∃ c inst, s.Carries (nodeKey w n) p inst c ∧ s.ReadyOn c agentId := by
  unfold isProviderAgentDeliveryReady providerConnection at hready
  cases hp : s.providerConnId (nodeKey w n) p with
  | none =>
    rw [hp] at hready
    cases hready
  | some c =>
    obtain ⟨conn, hconn, -, hname⟩ := hi.bound _ _ _ hp
    obtain ⟨inst, hinst⟩ := Option.ne_none_iff_exists'.mp (hi.named c conn p hconn hname).2
    rw [hp, Option.bind_some, hconn, Option.any_some] at hready
    exact ⟨c, inst, ⟨hp, conn, hconn, hinst⟩, conn, hconn, hready⟩

/-- Who is ready was made so by a call of the run, and since then the connection has kept its
provider and its instance. -/
theorem readied (h : Legal ops) (hc : (after ops).Carries key p inst c)
    (hr : (after ops).ReadyOn c agentId) :
    ∃ later op earlier, ops = later ++ op :: earlier ∧ (after earlier).Readies c agentId op ∧
      ∀ newer older, later = newer ++ older →
        (after (older ++ op :: earlier)).Carries key p inst c := by
  induction ops with
  | nil => exact absurd hc.1 (by simp [after, empty, providerConnId])
  | cons op ops ih =>
    obtain ⟨hlegal, hop⟩ := h
    rcases ready_step (inv_after hlegal) hop hc hr with hreadies | ⟨hcarries, hon⟩
    · refine ⟨[], op, ops, rfl, hreadies, fun newer older hnil => ?_⟩
      obtain ⟨rfl, rfl⟩ := List.append_eq_nil_iff.mp hnil.symm
      exact hc
    · obtain ⟨later, op', earlier, rfl, hreadies, hkept⟩ := ih hlegal hcarries hon
      refine ⟨op :: later, op', earlier, rfl, hreadies, fun newer older hsplit => ?_⟩
      rcases List.cons_eq_append_iff.mp hsplit with ⟨-, rfl⟩ | ⟨newer', -, hlater⟩
      · exact hc
      · exact hkept newer' older hlater

/-! ## Superseded connections -/

/-- The call moves the provider of the first connection to the second. -/
def Supersedes (s : Registry) (c c' : ConnectionId) : Operation → Prop
  | .attachProvider w n p _ c'' _ _ =>
    c'' = c' ∧ s.nodeConnections.lookup c' ≠ none ∧
      s.providerConnId (nodeKey w n) p = some c ∧ c ≠ c'
  | _ => False

/-- The call gives the id to a new socket. -/
def Reuses (c : ConnectionId) : Operation → Prop
  | .attachNodeSocket _ _ _ (some id) _ => c = .socket id
  | _ => False

/-- The registry has dropped the connection, and its handle knows why. -/
structure Gone (s : Registry) (c : ConnectionId) : Prop where
  dropped : s.nodeConnections.lookup c = none
  known : (s.departed.lookup c).any (·.superseded) = true
  issued : ∀ k, c = .nconn k → k ≤ s.connectionSeq

lemma Gone.of_agrees {s' : Registry} (h : s.Gone c) (ha : s'.Agrees s) : s'.Gone c where
  dropped := ha.lookup.trans h.dropped
  known := by
    rw [ha.departed]
    exact h.known
  issued := ha.connectionSeq ▸ h.issued

lemma Gone.ne (h : s.Gone c) (hconn : s.nodeConnections.lookup c' = some conn) : c ≠ c' := by
  rintro rfl
  rw [h.dropped] at hconn
  cases hconn

lemma departed_supersede (hne : c ≠ c') :
    (s.supersede key c').departed.lookup c = s.departed.lookup c := by
  unfold supersede
  cases s.nodeConnections.lookup c' with
  | none => rfl
  | some superseded => exact AList.lookup_insert_ne hne

/-- A connection that is gone stays gone until its id is given to another socket. -/
lemma Gone.apply (h : s.Gone c) (hi : s.Inv) (hop : ¬ Reuses c op) : (s.apply op).Gone c := by
  have hdetach : ∀ w n p, (s.detachProvider w n p).Gone c := fun w n p =>
    { dropped := by
        rw [lookup_detachProvider, h.dropped]
        simp
      known := h.known
      issued := h.issued }
  have hsetReady : ∀ {c' conn ready}, s.nodeConnections.lookup c' = some conn →
      (s.setReady c' conn ready).Gone c := fun hconn =>
    { dropped := by
        rw [lookup_setReady, if_neg (h.ne hconn)]
        exact h.dropped
      known := h.known
      issued := h.issued }
  cases op with
  | attachNodeSocket w n socket id now =>
    have hne : c ≠ s.newConnectionId id := by
      cases id with
      | none =>
        intro hc
        have hle : s.connectionSeq + 1 ≤ s.connectionSeq := h.issued _ hc
        omega
      | some id => exact hop
    refine ⟨?_, ?_, fun k hk => Nat.le_add_right_of_le (h.issued k hk)⟩
    · exact (lookup_attachNodeSocket s w n socket id now c).trans
        ((if_neg hne).trans h.dropped)
    · have heq : (s.apply (.attachNodeSocket w n socket id now)).departed.lookup c =
          s.departed.lookup c := AList.lookup_erase_ne hne
      rw [heq]
      exact h.known
  | attachProvider w n p inst c' actions now =>
    cases hconn : s.nodeConnections.lookup c' with
    | none =>
      have heq : s.apply (.attachProvider w n p inst c' actions now) = s :=
        attachProvider_of_lookup_eq_none hconn
      rw [heq]
      exact h
    | some conn =>
      refine ⟨?_, ?_, ?_⟩
      · rw [apply, lookup_attachProvider hconn, if_neg (h.ne hconn), h.dropped]
        simp
      · have heq : (s.apply (.attachProvider w n p inst c' actions now)).departed.lookup c =
            (s.takeProvider (nodeKey w n) p c').departed.lookup c := by
          simp only [apply, attachProvider, hconn]
        rw [heq]
        rcases s.takeProvider_cases (nodeKey w n) p c' with ⟨heq, -⟩ | ⟨c'', hold, -, heq⟩
        · rw [heq]
          exact h.known
        · obtain ⟨superseded, hsuperseded, -⟩ := hi.bound _ _ _ hold
          rw [heq, departed_supersede (h.ne hsuperseded)]
          exact h.known
      · rw [apply, connectionSeq_attachProvider hconn]
        exact h.issued
  | setReadiness w n p id mode =>
    rcases s.setProviderDeliveryReadiness_cases w n p id mode with
      heq | ⟨c', conn, ready, -, hconn, heq, -⟩ <;> rw [apply, heq]
    · exact h
    · exact hsetReady hconn
  | markReady w n p id agentIds =>
    rcases s.markProviderAgentsDeliveryReady_cases w n p id agentIds with
      heq | ⟨c', conn, ready, -, hconn, heq, -⟩ <;> rw [apply, heq]
    · exact h
    · exact hsetReady hconn
  | detachProvider w n p => exact hdetach w n p
  | send w n p message accepts =>
    rcases s.sendToProvider_cases w n p message accepts with ha | ha
    · exact h.of_agrees ha
    · exact (hdetach w n p).of_agrees ha
  | disconnectNode w n =>
    refine ⟨?_, ?_, ?_⟩
    · rw [apply, lookup_disconnectNode hi.bound_key, h.dropped, Option.filter_none]
    · have heq : (s.apply (.disconnectNode w n)).departed.lookup c =
          ((s.connIds w n).foldl forceDisconnect s).departed.lookup c := rfl
      rw [heq, departed_foldl_forceDisconnect h.dropped]
      exact h.known
    · rw [apply, connectionSeq_disconnectNode]
      exact h.issued
  | deregister c' p =>
    simp only [apply, deregisterFrame]
    cases s.handleConn c' with
    | none => exact h
    | some conn =>
      simp only
      split
      · exact h
      · exact hdetach _ _ _
  | close c' =>
    cases hconn : s.nodeConnections.lookup c' with
    | none => exact h.of_agrees (onNodeConnectionClose_of_lookup_eq_none hconn)
    | some conn =>
      refine ⟨?_, ?_, ?_⟩
      · rw [apply, lookup_onNodeConnectionClose hconn, if_neg (h.ne hconn)]
        exact h.dropped
      · rw [apply, departed_onNodeConnectionClose hconn (h.ne hconn)]
        exact h.known
      · rw [apply, connectionSeq_onNodeConnectionClose hconn]
        exact h.issued

/-- A connection is gone once another has taken its provider. -/
lemma gone_of_supersedes (hi : s.Inv) (h : s.Supersedes c c' op) : (s.apply op).Gone c := by
  cases op with
  | attachProvider w n p inst c'' actions now =>
    obtain ⟨rfl, hexists, hold, hne⟩ := h
    obtain ⟨conn', hconn'⟩ := Option.ne_none_iff_exists'.mp hexists
    obtain ⟨conn, hconn, -⟩ := hi.bound _ _ _ hold
    refine ⟨?_, ?_, ?_⟩
    · rw [apply, lookup_attachProvider hconn', if_neg hne, if_pos hold]
    · have heq : (s.apply (.attachProvider w n p inst c'' actions now)).departed =
          (s.supersede (nodeKey w n) c).departed := by
        simp only [apply, attachProvider, hconn', takeProvider, hold, if_neg hne]
      rw [heq]
      simp [supersede, hconn]
    · rw [apply, connectionSeq_attachProvider hconn']
      rintro k rfl
      exact hi.issued k (by rw [hconn]; simp)
  | _ => exact h.elim

lemma gone_after {later earlier : List Operation} (h : Legal (later ++ op :: earlier))
    (hsup : (after earlier).Supersedes c c' op) (hkept : ∀ op' ∈ later, ¬ Reuses c op') :
    (after (later ++ op :: earlier)).Gone c := by
  induction later with
  | nil => exact gone_of_supersedes (inv_after h.1) hsup
  | cons op' later ih =>
    refine (ih h.1 fun op'' hmem => hkept op'' (List.mem_cons_of_mem _ hmem)).apply
      (inv_after h.1) (hkept op' List.mem_cons_self)

/-- A frame of a connection that is gone does not deregister anything. -/
lemma Gone.deregisterFrame (h : s.Gone c) (p : ProviderName) : s.deregisterFrame c p = s := by
  have hknown := h.known
  cases hconn : s.departed.lookup c with
  | none =>
    rw [hconn] at hknown
    cases hknown
  | some conn =>
    have hsuperseded : conn.superseded = true := by simpa [hconn] using hknown
    unfold Registry.deregisterFrame handleConn
    rw [h.dropped, Option.none_or, hconn]
    simp [hsuperseded]

/-- **The four indexes agree in every run.**  A provider is bound to an existing connection of its
node that carries its name, and no connection is bound twice.  A node's entry lists exactly its
connections.  An agent is ready only if a call made it so on the connection now bound, which has
since kept the provider and the instance.  A superseded connection is bound to nothing, and
neither its close nor a `node.deregister` frame of it changes an index. -/
theorem indexes_agree (h : Legal ops) :
    (∀ w n p c, (after ops).providerConnId (nodeKey w n) p = some c →
      ∃ conn, (after ops).nodeConnections.lookup c = some conn ∧
        conn.workspaceId = w ∧ conn.nodeId = n ∧ conn.providerName = some p) ∧
    (∀ w n p w' n' p' c, (after ops).providerConnId (nodeKey w n) p = some c →
      (after ops).providerConnId (nodeKey w' n') p' = some c → w = w' ∧ n = n' ∧ p = p') ∧
    (∀ w n c, c ∈ (after ops).conns (nodeKey w n) ↔
      ∃ conn, (after ops).nodeConnections.lookup c = some conn ∧
        conn.workspaceId = w ∧ conn.nodeId = n) ∧
    (∀ w n p agentId, (after ops).isProviderAgentDeliveryReady w n p agentId = true →
      ∃ c inst later op earlier, ops = later ++ op :: earlier ∧
        (after earlier).Readies c agentId op ∧
        ∀ newer older, later = newer ++ older →
          (after (older ++ op :: earlier)).Carries (nodeKey w n) p inst c) ∧
    (∀ later op earlier c c', ops = later ++ op :: earlier →
      (after earlier).Supersedes c c' op → (∀ op' ∈ later, ¬ Reuses c op') →
      (∀ w n p, (after ops).providerConnId (nodeKey w n) p ≠ some c) ∧
        ((after ops).onNodeConnectionClose c).Agrees (after ops) ∧
        ∀ p, (after ops).deregisterFrame c p = after ops) := by
  have hi := inv_after h
  refine ⟨fun w n p c hp => ?_, fun w n p w' n' p' c hp hp' => ?_, fun w n c => ?_,
    fun w n p agentId hready => ?_, ?_⟩
  · obtain ⟨conn, hconn, hkey, hname⟩ := hi.bound _ _ _ hp
    obtain ⟨hw, hn⟩ := nodeKey_inj hkey
    exact ⟨conn, hconn, hw, hn, hname⟩
  · obtain ⟨hkey, hname⟩ := hi.bound_unique hp hp'
    obtain ⟨hw, hn⟩ := nodeKey_inj hkey
    exact ⟨hw, hn, hname⟩
  · rw [hi.indexed]
    constructor
    · rintro ⟨conn, hconn, hkey⟩
      exact ⟨conn, hconn, nodeKey_inj hkey⟩
    · rintro ⟨conn, hconn, rfl, rfl⟩
      exact ⟨conn, hconn, rfl⟩
  · obtain ⟨c, inst, hcarries, hon⟩ := carries_of_ready hi hready
    obtain ⟨later, op, earlier, hsplit, hreadies, hkept⟩ := readied h hcarries hon
    exact ⟨c, inst, later, op, earlier, hsplit, hreadies, hkept⟩
  · rintro later op earlier c c' rfl hsup hkept
    have hgone := gone_after h hsup hkept
    refine ⟨fun w n p hp => ?_, onNodeConnectionClose_of_lookup_eq_none hgone.dropped,
      hgone.deregisterFrame⟩
    obtain ⟨conn, hconn, -⟩ := hi.bound _ _ _ hp
    exact hgone.ne hconn rfl

/-- A reconnect: the second socket registers the provider of the first, whose close and whose
`node.deregister` come late. -/
def reconnect : List Operation :=
  let w : WorkspaceId := ⟨"7", by decide⟩
  [.close (.nconn 1), .deregister (.nconn 1) DEFAULT_PROVIDER_NAME,
    .markReady w "node_1" DEFAULT_PROVIDER_NAME (some (.nconn 2)) {"a"},
    .setReadiness w "node_1" DEFAULT_PROVIDER_NAME (some (.nconn 2)) .agentScoped,
    .attachProvider w "node_1" DEFAULT_PROVIDER_NAME "boot" (.nconn 2) ∅ 3,
    .attachNodeSocket w "node_1" "second" none 2,
    .attachProvider w "node_1" DEFAULT_PROVIDER_NAME "boot" (.nconn 1) ∅ 1,
    .attachNodeSocket w "node_1" "first" none 0]

theorem indexes_agree_reconnect :
    Legal reconnect ∧ ∃ w n c, c ∈ (after reconnect).conns (nodeKey w n) ∧
      ∃ conn, (after reconnect).nodeConnections.lookup c = some conn ∧
        conn.workspaceId = w ∧ conn.nodeId = n := by
  have hlegal : Legal reconnect := by decide +kernel
  have hmem : ConnectionId.nconn 2 ∈
      (after reconnect).conns (nodeKey ⟨"7", by decide⟩ "node_1") := by decide +kernel
  exact ⟨hlegal, _, _, _, hmem, ((indexes_agree hlegal).2.2.1 _ _ _).mp hmem⟩

end Registry

end Realtime
