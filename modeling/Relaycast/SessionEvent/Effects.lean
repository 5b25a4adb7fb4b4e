import Relaycast.SessionEvent.Recording

/-!
# Status events take effect once and in order

The completion marker counts the claims of an event, so an effect is claimed once.  An event that
mutates an agent finds no newer status event recorded, and it is not the one that mutated before,
because it was still unclaimed; so mutations come in the order of the sequences.  And whenever the
newest status event of an agent is marked applied, it was the newest when it was claimed: the fence
let it through, and nothing has got past the fence since.
-/

namespace SessionEvent

open Relational Interleaving Script

/-! ## Rows -/

/-- How a row changes: its marker is set, once. -/
structure Row.Grows (r r' : Row) : Prop where
  same : r' = { r with statusAppliedAt := r'.statusAppliedAt }
  marker : r.statusAppliedAt.isSome = true → r' = r

namespace Row

variable {r r' r'' : Row}

lemma Grows.refl (r : Row) : Grows r r := ⟨rfl, fun _ => rfl⟩

lemma Grows.trans (h : Grows r r') (h' : Grows r' r'') : Grows r r'' := by
  constructor
  · rw [h'.same, h.same]
  · intro hr
    obtain rfl := h.marker hr
    exact h'.marker hr

lemma grows_applied (now : Seconds) (hr : r.statusAppliedAt = none) : Grows r (r.applied now) :=
  ⟨rfl, fun h => by simp [hr] at h⟩

lemma Grows.isEvent (h : Grows r r') (ws : WorkspaceId) (agentId : AgentId) (id : EventId) :
    r'.isEvent ws agentId id = r.isEvent ws agentId id := by
  rw [h.same]
  rfl

lemma Grows.isOf (h : Grows r r') (ws : WorkspaceId) (agentId : AgentId) :
    r'.isOf ws agentId = r.isOf ws agentId := by
  rw [h.same]
  rfl

lemma Grows.hasKey (h : Grows r r') (ws : WorkspaceId) (agentId : AgentId) (hash : String) :
    r'.hasKey ws agentId hash = r.hasKey ws agentId hash := by
  rw [h.same]
  rfl

lemma Grows.type (h : Grows r r') : r'.type = r.type := by rw [h.same]

lemma Grows.sequence (h : Grows r r') : r'.sequence = r.sequence := by rw [h.same]

lemma Grows.requestDigest (h : Grows r r') : r'.requestDigest = r.requestDigest := by rw [h.same]

lemma Grows.toPublicEvent (h : Grows r r') (agentId : AgentId) :
    toPublicEvent r' agentId = toPublicEvent r agentId := by
  rw [h.same]
  rfl

lemma Grows.applied (h : Grows r r') (hr : r.statusAppliedAt.isSome = true) :
    r'.statusAppliedAt.isSome = true := by
  rwa [h.marker hr]

lemma isEvent_iff {ws : WorkspaceId} {agentId : AgentId} {id : EventId} :
    r.isEvent ws agentId id = true ↔ r.id = id ∧ r.isOf ws agentId = true := by
  simp [Row.isEvent]

lemma isOf_iff {ws : WorkspaceId} {agentId : AgentId} :
    r.isOf ws agentId = true ↔ r.workspaceId = ws ∧ r.agentId = agentId := by
  simp [Row.isOf]

lemma hasKey_iff {ws : WorkspaceId} {agentId : AgentId} {hash : String} :
    r.hasKey ws agentId hash = true ↔
      (r.workspaceId = ws ∧ r.agentId = agentId) ∧ r.idempotencyKeyHash = some hash := by
  simp [Row.hasKey, Row.isOf]

end Row

namespace Store

variable {s : Store} {r r' : Row}

lemma row_ext (hr : r ∈ s.events) (hr' : r' ∈ s.events) (h : r.id = r'.id) : r = r' := by
  refine Table.eq_of_clash hr hr' ?_
  simp [clash, key, h]

lemma row_ext_sequence (hr : r ∈ s.events) (hr' : r' ∈ s.events) (h : r.agentId = r'.agentId)
    (hsequence : r.sequence = r'.sequence) : r = r' := by
  refine Table.eq_of_clash hr hr' ?_
  simp [clash, key, h, hsequence]

lemma row_ext_key {ws : WorkspaceId} {agentId : AgentId} {hash : String} (hr : r ∈ s.events)
    (hr' : r' ∈ s.events) (h : r.hasKey ws agentId hash = true)
    (h' : r'.hasKey ws agentId hash = true) : r = r' := by
  obtain ⟨⟨hws, hagent⟩, hhash⟩ := Row.hasKey_iff.mp h
  obtain ⟨⟨hws', hagent'⟩, hhash'⟩ := Row.hasKey_iff.mp h'
  refine Table.eq_of_clash hr hr' ?_
  simp [clash, key, hws, hws', hagent, hagent', hhash, hhash']

lemma claims_iff {e : Effect} :
    claims e r = true ↔ r.isEvent e.workspaceId e.agentId e.eventId = true ∧
      r.statusAppliedAt = none := by
  simp [claims]

/-- The event an effect is about is the row with its id. -/
lemma currentSequence_eq {e : Effect} (hr : r ∈ s.events)
    (h : r.isEvent e.workspaceId e.agentId e.eventId = true) :
    s.currentSequence e = some r.sequence := by
  unfold currentSequence
  cases hhead : (s.events.select fun r => r.isEvent e.workspaceId e.agentId e.eventId).head? with
  | none =>
    have hmem : r ∈ s.events.select fun r => r.isEvent e.workspaceId e.agentId e.eventId :=
      Table.mem_select.mpr ⟨hr, h⟩
    simp [List.head?_eq_none_iff.mp hhead] at hmem
  | some r' =>
    obtain ⟨hr', h'⟩ := Table.mem_select.mp (List.mem_of_head? hhead)
    rw [Option.map_some, row_ext hr' hr
      ((Row.isEvent_iff.mp h').1.trans (Row.isEvent_iff.mp h).1.symm)]

lemma hasNewer_eq_false {e : Effect} (hr : r ∈ s.events)
    (h : r.isEvent e.workspaceId e.agentId e.eventId = true) :
    s.hasNewer e = false ↔ ∀ r' ∈ s.events, r'.isOf e.workspaceId e.agentId = true →
      r'.type.isStatus = true → r'.sequence ≤ r.sequence := by
  simp only [hasNewer, currentSequence_eq hr h, Option.any_some, List.any_eq_false,
    Bool.and_eq_true, decide_eq_true_eq, not_and, not_lt]
  constructor
  · exact fun hall r' hr' hof hstatus => hall r' hr' ⟨hof, hstatus⟩
  · exact fun hall r' hr' hboth => hall r' hr' hboth.1 hboth.2

lemma mutates_iff {e : Effect} {a : Agent} :
    s.mutates e a = true ↔ a.workspaceId = e.workspaceId ∧ a.id = e.agentId ∧
      a.status ≠ releasedAgentStatus ∧ (∃ r ∈ s.events, claims e r = true) ∧
      s.hasNewer e = false ∧ (s.legacyEvent e).all (fun legacy => a.status != e.status &&
        a.statusUpdatedAt.any fun updated => decide (updated < legacy.createdAt)) = true := by
  simp only [mutates, Bool.and_eq_true, beq_iff_eq, bne_iff_ne, List.any_eq_true,
    Bool.not_eq_true', and_assoc]
  rfl

end Store

/-! ## What a statement does to the events -/

/-- Every event is kept. -/
def StoreGrows (s s' : Store) : Prop := ∀ r ∈ s.events, ∃ r' ∈ s'.events, r.Grows r'

lemma StoreGrows.refl (s : Store) : StoreGrows s s := fun r hr => ⟨r, hr, .refl r⟩

lemma StoreGrows.trans {s s' s'' : Store} (h : StoreGrows s s') (h' : StoreGrows s' s'') :
    StoreGrows s s'' := by
  intro r hr
  obtain ⟨r', hr', hgrows⟩ := h r hr
  obtain ⟨r'', hr'', hgrows'⟩ := h' r' hr'
  exact ⟨r'', hr'', hgrows.trans hgrows'⟩

/-- An insert stores its row, unless an index forbids it. -/
lemma insert_cases (s : Store) (event : NewEvent) (now : Seconds) :
    (s.events.conflicts (s.newRow event now) = false ∧
      run (.insert event) now s = (some (s.newRow event now),
        { s with events := s.events.insertOrIgnore (s.newRow event now) })) ∨
    (s.events.conflicts (s.newRow event now) = true ∧
      run (.insert event) now s = (none, s)) := by
  cases hconflict : s.events.conflicts (s.newRow event now) with
  | false => exact .inl ⟨rfl, by simp [run, hconflict]⟩
  | true => exact .inr ⟨rfl, by simp [run, hconflict, Table.insertOrIgnore]⟩

/-- The rows after an effect. -/
lemma apply_events_cases {s : Store} {e : Effect} {now : Seconds} {r' : Row}
    (hr' : r' ∈ (run (.apply e) now s).2.events) :
    ∃ r ∈ s.events, r.Grows r' ∧
      ((Store.claims e r = false ∧ r' = r) ∨ (Store.claims e r = true ∧ r' = r.applied now)) := by
  have hmem : r' ∈ s.events.update (Store.claims e) (Row.applied now) fun _ => rfl := hr'
  rcases Table.mem_update_cases hmem with ⟨hold, hmiss⟩ | ⟨r, hr, hhit, rfl⟩
  · exact ⟨r', hold, .refl r', .inl ⟨hmiss, rfl⟩⟩
  · exact ⟨r, hr, Row.grows_applied now (Store.claims_iff.mp hhit).2, .inr ⟨hhit, rfl⟩⟩

lemma run_grows (q : Stmt) (a : q.Answer) (s : Store) : StoreGrows s (run q a s).2 := by
  cases q with
  | generateId | readByKey => exact .refl s
  | insert event =>
    rcases insert_cases s event a with ⟨-, hrun⟩ | ⟨-, hrun⟩
    · rw [hrun]
      exact fun r hr => ⟨r, Table.mem_insertOrIgnore_of_mem hr, .refl r⟩
    · rw [hrun]
      exact .refl s
  | apply e =>
    intro r hr
    have hmem : (if Store.claims e r then r.applied a else r) ∈
        s.events.update (Store.claims e) (Row.applied a) fun _ => rfl :=
      Table.mem_update.mpr ⟨r, hr, rfl⟩
    refine ⟨_, hmem, ?_⟩
    split_ifs with hclaims
    · exact Row.grows_applied a (Store.claims_iff.mp hclaims).2
    · exact .refl r

/-! ## What a run keeps -/

/-- The event a statement has claimed. -/
def Stmt.claimed : (q : Stmt) → q.Reply → Option EventId
  | .apply e, (_, true) => some e.eventId
  | _, _ => none

/-- The effect by which a statement has mutated an agent. -/
def Stmt.mutated : (q : Stmt) → q.Reply → Option Effect
  | .apply e, (true, _) => some e
  | _, _ => none

/-- Has the statement claimed the event? -/
def claimedEvent (id : EventId) (x : Event lang Store) : Bool :=
  Stmt.claimed x.stmt x.reply == some id

/-- The statement has mutated an agent by the effect `e`, whose event has the sequence `n`. -/
def Mutation (x : Event lang Store) (e : Effect) (n : ℕ) : Prop :=
  Stmt.mutated x.stmt x.reply = some e ∧ x.before.currentSequence e = some n

/-- Of two mutations of one agent, the later one is by the newer event. -/
def InOrder (later earlier : Event lang Store) : Prop :=
  ∀ e n e' n', Mutation earlier e n → Mutation later e' n' → e.workspaceId = e'.workspaceId →
    e.agentId = e'.agentId → n < n'

/-- The newest status event of an agent. -/
structure IsNewest (s : Store) (a : Agent) (r : Row) : Prop where
  mem : r ∈ s.events
  isOf : r.isOf a.workspaceId a.id = true
  isStatus : r.type.isStatus = true
  newest : ∀ r' ∈ s.events, r'.isOf a.workspaceId a.id = true → r'.type.isStatus = true →
    r'.sequence ≤ r.sequence

/-- The invariant. -/
structure Inv (w : World lang Store) : Prop where
  marked : ∀ id, (w.trace.filter (claimedEvent id)).length =
    w.store.events.count fun r => r.id == id && r.statusAppliedAt.isSome
  backed : ∀ x ∈ w.trace, ∀ e n, Mutation x e n → ∃ r ∈ w.store.events,
    r.isOf e.workspaceId e.agentId = true ∧ r.type.isStatus = true ∧
      r.statusAppliedAt.isSome = true ∧ r.sequence = n
  ordered : w.trace.Pairwise InOrder
  newest : ∀ a ∈ w.store.agents, a.status ≠ releasedAgentStatus → ∀ r, IsNewest w.store a r →
    r.statusAppliedAt.isSome = true → r.carried = some a.status

/-- What an effect may be applied for. -/
def Permitted (s : Store) (e : Effect) : Prop :=
  ∀ r ∈ s.events, r.isEvent e.workspaceId e.agentId e.eventId = true →
    r.type.isStatus = true ∧ r.statusLegacyPending = false ∧ r.carried = some e.status

section Apply

variable {w : World lang Store} {i : ℕ} {e : Effect} {now : Seconds}

/-- A claim is one more claim, and one more mark. -/
lemma Inv.marked_apply (h : Inv w) (eventId : EventId) :
    ((w.after machine i (.apply e) now).trace.filter (claimedEvent eventId)).length =
      (w.after machine i (.apply e) now).store.events.count
        fun r => r.id == eventId && r.statusAppliedAt.isSome := by
  have hcount := h.marked eventId
  set marked : Row → Bool := fun r => r.id == eventId && r.statusAppliedAt.isSome with hmarked
  have hevent : claimedEvent eventId (w.event machine i (.apply e) now) =
      (w.store.events.rows.any (Store.claims e) && e.eventId == eventId) := by
    cases hany : w.store.events.rows.any (Store.claims e) with
    | false => simp [claimedEvent, World.event, machine, run, Stmt.claimed, hany]
    | true =>
      simp only [claimedEvent, World.event, machine, run, Stmt.claimed, hany, Bool.true_and]
      by_cases hid : e.eventId = eventId <;> simp [hid]
  rw [World.after_trace, List.filter_cons, hevent]
  change _ = ((w.store.events.rows.map fun r => if Store.claims e r then r.applied now else r).countP
    marked)
  cases hany : w.store.events.rows.any (Store.claims e) with
  | false =>
    have hsame : (w.store.events.rows.map fun r => if Store.claims e r then r.applied now else r) =
        w.store.events.rows.map id := by
      refine List.map_congr_left fun r hr => ?_
      rw [if_neg (List.any_eq_false.mp hany r hr)]
      rfl
    rw [hsame, List.map_id]
    exact hcount
  | true =>
    obtain ⟨r, hr, hclaims⟩ := List.any_eq_true.mp hany
    obtain ⟨hisEvent, hnone⟩ := Store.claims_iff.mp hclaims
    have hid := (Row.isEvent_iff.mp hisEvent).1
    have hnodup : w.store.events.rows.Nodup := by
      have := w.store.events.nodup_map (f := (·.id)) fun r r' h => by simp [clash, key, h]
      exact this.of_map
    have hone := countP_map_of_unique (q := marked) (f := Row.applied now) hnodup hr fun r' hr' =>
      ⟨fun hclaims' => Store.row_ext hr' hr
        ((Row.isEvent_iff.mp (Store.claims_iff.mp hclaims').1).1.trans hid.symm),
        fun h => h ▸ hclaims⟩
    have hbefore : marked r = false := by simp [hmarked, hnone]
    have hafter : marked (r.applied now) = (e.eventId == eventId) := by
      simp [hmarked, Row.applied, hid]
    rw [hbefore, hafter] at hone
    unfold Table.count at hcount
    cases hsame : e.eventId == eventId with
    | false =>
      simp only [hsame, Bool.toNat_false] at hone
      simp only [Bool.and_false, Bool.false_eq_true, if_false]
      omega
    | true =>
      simp only [hsame, Bool.toNat_true, Bool.toNat_false] at hone
      simp only [Bool.and_true, if_true, List.length_cons]
      omega

/-- An effect that mutates was let through by the fence. -/
lemma mutation_event {n : ℕ} {e' : Effect}
    (hm : Mutation (w.event machine i (.apply e) now) e' n) :
    e' = e ∧ w.store.hasNewer e = false ∧ ∃ r ∈ w.store.events, Store.claims e r = true ∧
      r.sequence = n := by
  obtain ⟨hmutated, hsequence⟩ := hm
  cases hany : w.store.agents.rows.any (w.store.mutates e) with
  | false =>
    simp only [World.event, machine, run, Stmt.mutated, hany] at hmutated
    cases hmutated
  | true =>
    simp only [World.event, machine, run, Stmt.mutated, hany, Option.some.injEq] at hmutated
    subst hmutated
    obtain ⟨a, -, ha⟩ := List.any_eq_true.mp hany
    obtain ⟨-, -, -, ⟨r, hr, hclaims⟩, hnewer, -⟩ := Store.mutates_iff.mp ha
    have hcurrent := Store.currentSequence_eq hr (Store.claims_iff.mp hclaims).1
    exact ⟨rfl, hnewer, r, hr, hclaims, Option.some.inj (hcurrent.symm.trans hsequence)⟩

/-- The row an effect claims, afterwards. -/
lemma claimed_mem {r : Row} (hr : r ∈ w.store.events) (hclaims : Store.claims e r = true) :
    r.applied now ∈ (w.after machine i (.apply e) now).store.events := by
  have hmem : r.applied now ∈ w.store.events.update (Store.claims e) (Row.applied now)
      fun _ => rfl := Table.mem_update.mpr ⟨r, hr, by rw [if_pos hclaims]⟩
  exact hmem

lemma Inv.backed_apply (h : Inv w) (hpermitted : Permitted w.store e) :
    ∀ x ∈ (w.after machine i (.apply e) now).trace, ∀ e' n, Mutation x e' n →
      ∃ r ∈ (w.after machine i (.apply e) now).store.events,
        r.isOf e'.workspaceId e'.agentId = true ∧ r.type.isStatus = true ∧
          r.statusAppliedAt.isSome = true ∧ r.sequence = n := by
  intro x hx e' n hm
  rcases List.mem_cons.mp hx with rfl | hx
  · obtain ⟨rfl, -, r, hr, hclaims, hn⟩ := mutation_event hm
    obtain ⟨hevent, -⟩ := Store.claims_iff.mp hclaims
    exact ⟨r.applied now, claimed_mem hr hclaims, (Row.isEvent_iff.mp hevent).2,
      (hpermitted r hr hevent).1, rfl, hn⟩
  · obtain ⟨r, hr, hof, hstatus, happlied, hn⟩ := h.backed x hx e' n hm
    obtain ⟨r', hr', hgrows⟩ := run_grows (.apply e) now w.store r hr
    exact ⟨r', hr', (hgrows.isOf _ _).trans hof, hgrows.type ▸ hstatus, hgrows.applied happlied,
      hgrows.sequence.trans hn⟩

/-- What has mutated the agent before is neither newer, by the fence, nor the same event, which was
unclaimed. -/
lemma Inv.ordered_apply (h : Inv w) :
    (w.after machine i (.apply e) now).trace.Pairwise InOrder := by
  refine List.pairwise_cons.mpr ⟨fun x hx e₁ n₁ e' n' hm₁ hm' hws hagent => ?_, h.ordered⟩
  obtain ⟨rfl, hnewer, r, hr, hclaims, hn⟩ := mutation_event hm'
  obtain ⟨hevent, hnone⟩ := Store.claims_iff.mp hclaims
  obtain ⟨r₁, hr₁, hof₁, hstatus₁, happlied₁, hn₁⟩ := h.backed x hx e₁ n₁ hm₁
  rw [hws, hagent] at hof₁
  have hle : r₁.sequence ≤ r.sequence :=
    (Store.hasNewer_eq_false hr hevent).mp hnewer r₁ hr₁ hof₁ hstatus₁
  have hne : r₁.sequence ≠ r.sequence := by
    intro hsequence
    have hagents : r₁.agentId = r.agentId := (Row.isOf_iff.mp hof₁).2.trans
      (Row.isOf_iff.mp (Row.isEvent_iff.mp hevent).2).2.symm
    obtain rfl := Store.row_ext_sequence hr₁ hr hagents hsequence
    simp [hnone] at happlied₁
  omega

/-- A newest event that has just been claimed was the newest before. -/
lemma IsNewest.of_apply {a : Agent} {r r₀ : Row} (hr₀ : r₀ ∈ w.store.events) (hgrows : r₀.Grows r)
    (hr : IsNewest (w.after machine i (.apply e) now).store a r) : IsNewest w.store a r₀ := by
  refine ⟨hr₀, (hgrows.isOf _ _) ▸ hr.isOf, hgrows.type ▸ hr.isStatus, fun r' hr' hof hstatus => ?_⟩
  obtain ⟨r'', hr'', hgrows''⟩ := run_grows (.apply e) now w.store r' hr'
  have := hr.newest r'' hr'' ((hgrows''.isOf _ _).trans hof) (hgrows''.type.symm ▸ hstatus)
  rwa [hgrows''.sequence, hgrows.sequence] at this

/-- The fence lets the newest event through. -/
lemma mutates_of_newest {a : Agent} {r : Row} (hpermitted : Permitted w.store e)
    (hr : IsNewest w.store a r) (hclaims : Store.claims e r = true)
    (hreleased : a.status ≠ releasedAgentStatus) : w.store.mutates e a = true := by
  obtain ⟨hevent, -⟩ := Store.claims_iff.mp hclaims
  obtain ⟨hws, hagent⟩ := Row.isOf_iff.mp (Row.isEvent_iff.mp hevent).2
  obtain ⟨hws', hagent'⟩ := Row.isOf_iff.mp hr.isOf
  refine Store.mutates_iff.mpr ⟨hws'.symm.trans hws, hagent'.symm.trans hagent, hreleased,
    ⟨r, hr.mem, hclaims⟩, ?_, ?_⟩
  · refine (Store.hasNewer_eq_false hr.mem hevent).mpr fun r' hr' hof => hr.newest r' hr' ?_
    rwa [← hws, ← hagent, hws', hagent'] at hof
  · have hnone : w.store.legacyEvent e = none := by
      refine List.head?_eq_none_iff.mpr (List.filter_eq_nil_iff.mpr fun r' hr' hlegacy => ?_)
      obtain ⟨hevent', hpending⟩ := (Bool.and_eq_true _ _).mp hlegacy
      simp [(hpermitted r' hr' hevent').2.1] at hpending
    rw [hnone]
    rfl

lemma Inv.newest_apply (h : Inv w) (hpermitted : Permitted w.store e) :
    ∀ a ∈ (w.after machine i (.apply e) now).store.agents, a.status ≠ releasedAgentStatus →
      ∀ r, IsNewest (w.after machine i (.apply e) now).store a r →
        r.statusAppliedAt.isSome = true → r.carried = some a.status := by
  intro a ha hreleased r hr happlied
  obtain ⟨r₀, hr₀, hgrows, hcases⟩ := apply_events_cases hr.mem
  have hnewest := hr.of_apply hr₀ hgrows
  have hcarried : r.carried = r₀.carried := by
    rw [hgrows.same]
    rfl
  have hagents : a ∈ w.store.agents.update (w.store.mutates e) (Agent.withStatus e.status now)
      fun _ => rfl := ha
  rw [hcarried]
  rcases Table.mem_update_cases hagents with ⟨hold, hmiss⟩ | ⟨a₀, ha₀, hhit, rfl⟩
  · rcases hcases with ⟨-, rfl⟩ | ⟨hclaims, -⟩
    · exact h.newest a hold hreleased r hnewest happlied
    · rw [mutates_of_newest hpermitted hnewest hclaims hreleased] at hmiss
      cases hmiss
  · -- The event of the effect is the newest one, as nothing newer was recorded.
    obtain ⟨hws, hagent, -, ⟨z, hz, hclaims⟩, hnewer, -⟩ := Store.mutates_iff.mp hhit
    obtain ⟨hevent, -⟩ := Store.claims_iff.mp hclaims
    obtain ⟨hstatus, -, hz'⟩ := hpermitted z hz hevent
    have hof₀ : r₀.isOf e.workspaceId e.agentId = true := by
      rw [← hws, ← hagent]
      exact hnewest.isOf
    have hzof := (Row.isEvent_iff.mp hevent).2
    have hle := (Store.hasNewer_eq_false hz hevent).mp hnewer r₀ hr₀ hof₀ hnewest.isStatus
    have hge := hnewest.newest z hz (by rw [← hws, ← hagent] at hzof; exact hzof) hstatus
    have hids : r₀.agentId = z.agentId :=
      (Row.isOf_iff.mp hof₀).2.trans (Row.isOf_iff.mp hzof).2.symm
    rw [Store.row_ext_sequence hr₀ hz hids (by omega)]
    exact hz'

end Apply

/-- A statement that claims and mutates nothing, and keeps agents and events apart from a new row
without a mark. -/
lemma Inv.of_quiet {w : World lang Store} (h : Inv w) {i : ℕ} {q : Stmt} {a : q.Answer}
    (hclaimed : Stmt.claimed q (run q a w.store).1 = none)
    (hmutated : Stmt.mutated q (run q a w.store).1 = none)
    (hagents : (run q a w.store).2.agents = w.store.agents)
    (hevents : (run q a w.store).2.events.rows = w.store.events.rows ∨
      ∃ r, r.statusAppliedAt = none ∧
        (run q a w.store).2.events.rows = w.store.events.rows ++ [r]) :
    Inv (w.after machine i q a) := by
  have hnone : ∀ e n, ¬ Mutation (w.event machine i q a) e n := by
    rintro e n ⟨hm, -⟩
    have hm' : Stmt.mutated q (run q a w.store).1 = some e := hm
    simp [hmutated] at hm'
  have hgrows := run_grows q a w.store
  have hmarked : ∀ r ∈ (run q a w.store).2.events, r.statusAppliedAt.isSome = true →
      r ∈ w.store.events := by
    intro r hr happlied
    rcases hevents with hsame | ⟨r₀, hr₀, happend⟩
    · exact Table.mem_def.mpr (hsame ▸ Table.mem_def.mp hr)
    · have hr' : r ∈ w.store.events.rows ++ [r₀] := happend ▸ Table.mem_def.mp hr
      rcases List.mem_append.mp hr' with hold | hnew
      · exact hold
      · rw [List.mem_singleton.mp hnew, hr₀] at happlied
        cases happlied
  refine ⟨fun id => ?_, fun x hx e n hm => ?_, ?_, fun a' ha' hreleased r hr happlied => ?_⟩
  · have hevent : claimedEvent id (w.event machine i q a) = false := by
      change (Stmt.claimed q (run q a w.store).1 == some id) = false
      rw [hclaimed]
      rfl
    rw [World.after_trace, List.filter_cons, hevent, if_neg (by simp), h.marked id]
    unfold Table.count
    rcases hevents with hsame | ⟨r₀, hr₀, happend⟩
    · exact congrArg (List.countP _) hsame.symm
    · have := congrArg (List.countP fun r => r.id == id && r.statusAppliedAt.isSome) happend
      rw [List.countP_append, List.countP_singleton] at this
      simp only [hr₀, Option.isSome_none, Bool.and_false, Bool.false_eq_true, if_false,
        Nat.add_zero] at this
      exact this.symm
  · rcases List.mem_cons.mp hx with rfl | hx
    · exact absurd hm (hnone e n)
    · obtain ⟨r, hr, hof, hstatus, happlied, hn⟩ := h.backed x hx e n hm
      obtain ⟨r', hr', hrow⟩ := hgrows r hr
      exact ⟨r', hr', (hrow.isOf _ _).trans hof, hrow.type ▸ hstatus, hrow.applied happlied,
        hrow.sequence.trans hn⟩
  · exact List.pairwise_cons.mpr ⟨fun x _ e n e' n' _ hm => absurd hm (hnone e' n'), h.ordered⟩
  · have ha : a' ∈ w.store.agents := hagents ▸ ha'
    refine h.newest a' ha hreleased r ⟨hmarked r hr.mem happlied, hr.isOf, hr.isStatus,
      fun r' hr' hof hstatus => ?_⟩ happlied
    have hr'' : r' ∈ (run q a w.store).2.events := by
      rcases hevents with hsame | ⟨r₀, -, happend⟩
      · exact Table.mem_def.mpr (hsame.symm ▸ Table.mem_def.mp hr')
      · refine Table.mem_def.mpr ?_
        rw [happend]
        exact List.mem_append_left _ hr'
    exact hr.newest r' hr'' hof hstatus

/-- Every statement keeps the invariant. -/
lemma Inv.after {w : World lang Store} (h : Inv w) {i : ℕ} {q : Stmt}
    (hpermits : statusEvents.permits w i q) (a : q.Answer) : Inv (w.after machine i q a) := by
  cases q with
  | generateId => exact h.of_quiet rfl rfl rfl (.inl rfl)
  | readByKey => exact h.of_quiet rfl rfl rfl (.inl rfl)
  | insert event =>
    rcases insert_cases w.store event a with ⟨hconflict, hrun⟩ | ⟨-, hrun⟩
    · refine h.of_quiet rfl rfl (by rw [hrun]) (.inr ⟨w.store.newRow event a, rfl, ?_⟩)
      rw [hrun]
      simp only [Table.insertOrIgnore, hconflict, dite_true]
      rfl
    · exact h.of_quiet rfl rfl (by rw [hrun]) (.inl (by rw [hrun]))
  | apply e =>
    have hpermitted : Permitted w.store e := hpermits
    exact ⟨h.marked_apply, h.backed_apply hpermitted, h.ordered_apply, h.newest_apply hpermitted⟩

/-! ## What a call returns -/

variable {sha256Hex : String → String}

/-- The invariant, and that events are kept. -/
def shared : Shared lang Store where
  inv := Inv
  grows w w' := StoreGrows w.store w'.store
  refl w := .refl w.store
  trans _ _ _ := .trans

/-- What a keyed recording returns where the key was held before one of its statements: the event
that holds it, or a refusal if it is about something else. -/
def Replays (agentId : AgentId) (requestDigest : String) (r : Row) :
    Except RecordError Recorded → Prop
  | .ok recorded => recorded.event = toPublicEvent r agentId ∧ recorded.replayed = true ∧
      r.requestDigest = some requestDigest
  | .error e => e = .idempotencyKeyReused ∧ r.requestDigest ≠ some requestDigest

/-- The postcondition of a keyed recording. -/
structure KeyedPost (i : ℕ) (workspaceId : WorkspaceId) (agentId : AgentId) (hash : String)
    (requestDigest : String) (result : Except RecordError Recorded) (w : World lang Store) :
    Prop where
  replays : ∀ x ∈ w.eventsOf i, ∀ r ∈ x.before.events, r.hasKey workspaceId agentId hash = true →
    Replays agentId requestDigest r result
  recorded : ∀ recorded, result = .ok recorded → ∃ r ∈ w.store.events,
    r.hasKey workspaceId agentId hash = true ∧ recorded.event = toPublicEvent r agentId

/-- The postcondition of a call. -/
def Post (sha256Hex : String → String) : (c : Call) → ℕ → c.Result → World lang Store → Prop
  | .recordSessionEvent .., _, _, _ => True
  | .recordSessionEventWithIdempotency ws agentId data idempotencyKey, i, result, w =>
    KeyedPost i ws agentId (keyHash sha256Hex idempotencyKey) (digest sha256Hex data) result w
  | .applyStatusEventEffect e, i, result, w =>
    (result.mutated = true → result.claimed = true) ∧
      (result.claimed = true → ∃ x ∈ w.eventsOf i, claimedEvent e.eventId x = true)

lemma kept {w : World lang Store} (h : Inv w) {i : ℕ} {q : Stmt}
    (hpermits : statusEvents.permits w i q) (a : q.Answer) :
    shared.inv (w.after machine i q a) ∧ shared.grows w (w.after machine i q a) :=
  ⟨h.after hpermits a, run_grows q a w.store⟩

lemma recordSessionEvent_safe (workspaceId : WorkspaceId) (agentId : AgentId) (data : EventData)
    (i : ℕ) (w : World lang Store) :
    shared.Safe machine statusEvents.permits i (fun _ _ => True)
      (recordSessionEvent workspaceId agentId data) w := by
  refine Shared.Safe.ask fun w₁ _ _ hinv hq id => ⟨kept hinv hq id, fun _ _ => ?_⟩
  refine Shared.Safe.ask fun w₂ _ _ hinv hq now => ⟨kept hinv hq now, fun created _ => ?_⟩
  cases created with
  | none => trivial
  | some event => trivial

lemma applyStatusEventEffect_safe (e : Effect) (i : ℕ) (w : World lang Store) :
    shared.Safe machine statusEvents.permits i
      (Post sha256Hex (.applyStatusEventEffect e) i) (applyStatusEventEffect e) w := by
  refine Shared.Safe.ask fun w₁ _ _ hinv hq now => ⟨kept hinv hq now, fun reply hreply => ?_⟩
  obtain ⟨mutated, claimed⟩ := reply
  refine ⟨fun h => ((Bool.and_eq_true _ _).mp h).1, fun h => ?_⟩
  refine ⟨_, World.event_mem_eventsOf machine w₁ i (.apply e) now, ?_⟩
  have hclaimed : claimed = true := h
  have hrun : (run (.apply e) now w₁.store).1 = (mutated, claimed) := hreply.symm
  change (Stmt.claimed (.apply e) (run (.apply e) now w₁.store).1 == some e.eventId) = true
  rw [hrun, hclaimed]
  simp [Stmt.claimed]

/-- The row that holds a key is the one that held it before. -/
lemma grows_key {s s' : Store} (h : StoreGrows s s') {ws : WorkspaceId} {agentId : AgentId}
    {hash : String} {r r' : Row} (hr : r ∈ s.events) (hkey : r.hasKey ws agentId hash = true)
    (hr' : r' ∈ s'.events) (hkey' : r'.hasKey ws agentId hash = true) : r.Grows r' := by
  obtain ⟨r'', hr'', hgrows⟩ := h r hr
  rwa [Store.row_ext_key hr' hr'' hkey' ((hgrows.hasKey _ _ _).trans hkey)]

lemma recordSessionEventWithIdempotency_safe (ws : WorkspaceId) (agentId : AgentId)
    (data : EventData) (idempotencyKey : String) (i : ℕ) (w : World lang Store)
    (hown : w.eventsOf i = []) :
    shared.Safe machine statusEvents.permits i
      (Post sha256Hex (.recordSessionEventWithIdempotency ws agentId data idempotencyKey) i)
      (recordSessionEventWithIdempotency sha256Hex ws agentId data idempotencyKey) w := by
  unfold recordSessionEventWithIdempotency
  simp only []
  set hash := keyHash sha256Hex idempotencyKey with hhash
  set requestDigest := digest sha256Hex data with hdigest
  refine Shared.Safe.ask fun w₁ hown₁ _ hinv hq id => ⟨kept hinv hq id, fun id' _ => ?_⟩
  refine Shared.Safe.ask fun w₂ hown₂ hgrows₂ hinv₂ hq now => ⟨kept hinv₂ hq now, fun created hcreated => ?_⟩
  have hcreated' : created =
    (run (.insert ⟨id', ws, agentId, data, some hash, some requestDigest⟩) now w₂.store).1 := hcreated
  clear hcreated
  have hevents₂ : w₂.eventsOf i = [w₁.event machine i .generateId id] := by
    rw [hown₂, World.eventsOf_after_self, hown₁, hown]
  have hgrows₁ : StoreGrows w₁.store w₂.store := hgrows₂
  rcases insert_cases w₂.store ⟨id', ws, agentId, data, some hash, some requestDigest⟩ now with
    ⟨hconflict, hrun⟩ | ⟨-, hrun⟩
  · rw [hrun] at hcreated'
    subst hcreated'
    have hkey : (w₂.store.newRow ⟨id', ws, agentId, data, some hash, some requestDigest⟩ now).hasKey
        ws agentId hash = true := Row.hasKey_iff.mpr ⟨⟨rfl, rfl⟩, rfl⟩
    -- No row holds the key before, as it would conflict.
    have hfresh : ∀ r ∈ w₂.store.events, ¬ r.hasKey ws agentId hash = true := by
      intro r hr hr'
      obtain ⟨⟨hws, hagent⟩, hh⟩ := Row.hasKey_iff.mp hr'
      refine List.any_eq_false.mp hconflict r hr ?_
      simp [clash, key, Store.newRow, hws, hagent, hh]
    refine (⟨fun x hx r hr hr' => ?_, fun recorded hrecorded => ?_⟩ : KeyedPost ..)
    · rw [World.eventsOf_after_self, hevents₂] at hx
      rcases List.mem_cons.mp hx with rfl | hx
      · exact absurd hr' (hfresh r hr)
      · obtain rfl := List.mem_singleton.mp hx
        obtain ⟨r₂, hr₂, hrow⟩ := hgrows₁ r hr
        exact absurd ((hrow.hasKey _ _ _).trans hr') (hfresh r₂ hr₂)
    · obtain rfl := Except.ok.inj hrecorded
      refine ⟨_, ?_, hkey, rfl⟩
      rw [World.after_store]
      change _ ∈ (run (.insert _) now w₂.store).2.events
      rw [hrun]
      exact Table.mem_insertOrIgnore_self hconflict
  · rw [hrun] at hcreated'
    subst hcreated'
    refine Shared.Safe.ask fun w₃ hown₃ hgrows₃ hinv₃ hq _ => ⟨kept hinv₃ hq _, fun existing hexisting => ?_⟩
    have hgrows₂₃ : StoreGrows w₂.store w₃.store :=
      (run_grows (.insert _) now w₂.store).trans hgrows₃
    have hbefore : ∀ x ∈ (w₃.after machine i (.readByKey ws agentId hash) ()).eventsOf i,
        StoreGrows x.before w₃.store := by
      intro x hx
      rw [World.eventsOf_after_self, hown₃, World.eventsOf_after_self, hevents₂] at hx
      rcases List.mem_cons.mp hx with rfl | hx
      · exact .refl _
      rcases List.mem_cons.mp hx with rfl | hx
      · exact hgrows₂₃
      · obtain rfl := List.mem_singleton.mp hx
        exact hgrows₁.trans hgrows₂₃
    have hread : existing =
        (w₃.store.events.select fun r => r.hasKey ws agentId hash).head? := hexisting
    cases existing with
    | none =>
      change KeyedPost i ws agentId hash requestDigest (.error .idempotencyUnavailable) _
      refine ⟨fun x hx r hr hr' => ?_, fun _ h => by cases h⟩
      obtain ⟨r₃, hr₃, hrow⟩ := hbefore x hx r hr
      have hmem : r₃ ∈ w₃.store.events.select fun r => r.hasKey ws agentId hash :=
        Table.mem_select.mpr ⟨hr₃, (hrow.hasKey _ _ _).trans hr'⟩
      rw [List.head?_eq_none_iff.mp hread.symm] at hmem
      exact absurd hmem List.not_mem_nil
    | some row =>
      obtain ⟨hmem, hkey⟩ := Table.mem_select.mp (List.mem_of_head? hread.symm)
      have hsame : ∀ x ∈ (w₃.after machine i (.readByKey ws agentId hash) ()).eventsOf i,
          ∀ r ∈ x.before.events, r.hasKey ws agentId hash = true → r.Grows row :=
        fun x hx r hr hr' => grows_key (hbefore x hx) hr hr' hmem hkey
      dsimp only
      split_ifs with hdiffers
      · change KeyedPost i ws agentId hash requestDigest (.error .idempotencyKeyReused) _
        refine ⟨fun x hx r hr hr' => ⟨rfl, ?_⟩, fun _ h => by cases h⟩
        rwa [← (hsame x hx r hr hr').requestDigest]
      · refine (⟨fun x hx r hr hr' => ?_, fun recorded hrecorded => ?_⟩ : KeyedPost ..)
        · have hrow := hsame x hx r hr hr'
          refine ⟨hrow.toPublicEvent agentId, rfl, ?_⟩
          rw [← hrow.requestDigest]
          exact not_not.mp hdiffers
        · obtain rfl := Except.ok.inj hrecorded
          exact ⟨row, hmem, hkey, rfl⟩

/-- A call that has returned. -/
def Returned (g : Config lang Store Call.Result) (i : ℕ) (c : Call) (result : c.Result) : Prop :=
  g.threads[i]? = some ⟨c, some (.done result)⟩

lemma sound {g : Config lang Store Call.Result}
    (h : (service sha256Hex).Reachable statusEvents g) :
    Inv g.world ∧ ∀ i c result, Returned g i c result →
      ∃ w, g.world.eventsOf i = w.eventsOf i ∧ StoreGrows w.store g.world.store ∧
        Post sha256Hex c i result w := by
  refine Shared.sound (H := shared) (S := service sha256Hex) (Q := Post sha256Hex) ?_
    (fun d => d.elim) (fun d => d.elim) (fun c _ i w hown _ => ?_) h
  · intro s hs
    refine ⟨fun id => ?_, by simp, .nil, fun a _ _ r hr happlied => ?_⟩
    · refine (List.countP_eq_zero.mpr fun r hr => ?_).symm
      simp [hs r hr]
    · simp [hs r hr.mem] at happlied
  · cases c with
    | recordSessionEvent ws agentId data => exact recordSessionEvent_safe ws agentId data i w
    | recordSessionEventWithIdempotency ws agentId data idempotencyKey =>
      exact recordSessionEventWithIdempotency_safe ws agentId data idempotencyKey i w hown
    | applyStatusEventEffect e => exact applyStatusEventEffect_safe e i w

lemma Inv.claimed_le_one {w : World lang Store} (h : Inv w) (id : EventId) :
    (w.trace.filter (claimedEvent id)).length ≤ 1 := by
  rw [h.marked]
  refine countP_le_one_of_pairwise (List.pairwise_map.mp w.store.events.unique) ?_
  intro r _ r' _ hr hr' hclash
  simp only [Bool.and_eq_true, beq_iff_eq] at hr hr'
  simp [clash, key, hr.1, hr'.1] at hclash

lemma Inv.marked_eq {w : World lang Store} (h : Inv w) {r : Row} (hr : r ∈ w.store.events) :
    (w.trace.filter (claimedEvent r.id)).length = if r.statusAppliedAt.isSome then 1 else 0 := by
  have hle := h.claimed_le_one r.id
  rw [h.marked] at hle ⊢
  unfold Table.count at hle ⊢
  split_ifs with happlied
  · have hpos := List.countP_pos_iff (p := fun r' : Row => r'.id == r.id && r'.statusAppliedAt.isSome)
      |>.mpr ⟨r, hr, by simp [happlied]⟩
    omega
  · refine List.countP_eq_zero.mpr fun r' hr' hboth => happlied ?_
    simp only [Bool.and_eq_true, beq_iff_eq] at hboth
    rw [← Store.row_ext hr' hr hboth.1]
    exact hboth.2

/-- Two claims of one event are one. -/
lemma Inv.claim_unique {w : World lang Store} (h : Inv w) {id : EventId} {x x' : Event lang Store}
    (hx : x ∈ w.trace) (hx' : x' ∈ w.trace) (hclaimed : claimedEvent id x = true)
    (hclaimed' : claimedEvent id x' = true) : x = x' := by
  have hmem : x ∈ w.trace.filter (claimedEvent id) := List.mem_filter.mpr ⟨hx, hclaimed⟩
  have hmem' : x' ∈ w.trace.filter (claimedEvent id) := List.mem_filter.mpr ⟨hx', hclaimed'⟩
  have hone := h.claimed_le_one id
  generalize w.trace.filter (claimedEvent id) = claims at hmem hmem' hone
  cases claims with
  | nil => simp at hmem
  | cons y rest =>
    obtain rfl : rest = [] := List.eq_nil_of_length_eq_zero (by simpa using hone)
    rw [List.mem_singleton] at hmem hmem'
    exact hmem.trans hmem'.symm

/-- **Status events take effect once and in order.**  An event is claimed at most once, and exactly
once where it is marked; of any calls at most one reports the claim, and only that one reports
`mutated`.  A call whose key was held before one of its statements gets the event that held it, or
is refused as a reuse if the digests differ, and all events returned for one key are one.  An agent
is mutated by newer and newer events.  Where the newest status event of an agent that is not
released has been applied, the agent has the status it carries. -/
theorem status_effects_once_and_in_order (sha256Hex : String → String)
    {g : Config lang Store Call.Result} (h : (service sha256Hex).Reachable statusEvents g) :
    (∀ id, (g.world.trace.filter (claimedEvent id)).length ≤ 1) ∧
    (∀ r ∈ g.world.store.events, (g.world.trace.filter (claimedEvent r.id)).length =
      if r.statusAppliedAt.isSome then 1 else 0) ∧
    (∀ i j e e' result result', Returned g i (.applyStatusEventEffect e) result →
      Returned g j (.applyStatusEventEffect e') result' → e.eventId = e'.eventId →
      result.claimed = true → result'.claimed = true → i = j) ∧
    (∀ i e result, Returned g i (.applyStatusEventEffect e) result → result.mutated = true →
      result.claimed = true) ∧
    (∀ i ws agentId data idempotencyKey result,
      Returned g i (.recordSessionEventWithIdempotency ws agentId data idempotencyKey) result →
      ∀ x ∈ g.world.trace, x.caller = i → ∀ r ∈ x.before.events,
        r.hasKey ws agentId (keyHash sha256Hex idempotencyKey) = true →
        Replays agentId (digest sha256Hex data) r result) ∧
    (∀ i j ws agentId data data' idempotencyKey recorded recorded',
      Returned g i (.recordSessionEventWithIdempotency ws agentId data idempotencyKey)
        (.ok recorded) →
      Returned g j (.recordSessionEventWithIdempotency ws agentId data' idempotencyKey)
        (.ok recorded') → recorded.event = recorded'.event) ∧
    g.world.trace.Pairwise InOrder ∧
    ∀ a ∈ g.world.store.agents, a.status ≠ releasedAgentStatus →
      ∀ r, IsNewest g.world.store a r → r.statusAppliedAt.isSome = true →
        r.carried = some a.status := by
  obtain ⟨hinv, hreturned⟩ := sound h
  have hrecorded : ∀ i ws agentId data idempotencyKey recorded,
      Returned g i (.recordSessionEventWithIdempotency ws agentId data idempotencyKey)
        (.ok recorded) → ∃ r ∈ g.world.store.events,
        r.hasKey ws agentId (keyHash sha256Hex idempotencyKey) = true ∧
          recorded.event = toPublicEvent r agentId := by
    intro i ws agentId data idempotencyKey recorded hi
    obtain ⟨w, -, hgrows, hpost⟩ := hreturned i _ _ hi
    obtain ⟨r, hr, hkey, hevent⟩ := hpost.recorded recorded rfl
    obtain ⟨r', hr', hrow⟩ := hgrows r hr
    exact ⟨r', hr', (hrow.hasKey _ _ _).trans hkey, hevent.trans (hrow.toPublicEvent agentId).symm⟩
  refine ⟨hinv.claimed_le_one, fun r hr => hinv.marked_eq hr, ?_, ?_, ?_, ?_, hinv.ordered,
    hinv.newest⟩
  · intro i j e e' result result' hi hj hid hclaimed hclaimed'
    obtain ⟨w, hown, -, -, hpost⟩ := hreturned i _ _ hi
    obtain ⟨w', hown', -, -, hpost'⟩ := hreturned j _ _ hj
    obtain ⟨x, hx, hxclaimed⟩ := hpost hclaimed
    obtain ⟨x', hx', hxclaimed'⟩ := hpost' hclaimed'
    obtain ⟨hmem, rfl⟩ := World.mem_eventsOf.mp (hown ▸ hx)
    obtain ⟨hmem', rfl⟩ := World.mem_eventsOf.mp (hown' ▸ hx')
    rw [hinv.claim_unique hmem hmem' hxclaimed (hid ▸ hxclaimed')]
  · intro i e result hi
    obtain ⟨w, -, -, hpost, -⟩ := hreturned i _ _ hi
    exact hpost
  · intro i ws agentId data idempotencyKey result hi x hx hcaller
    obtain ⟨w, hown, -, hpost⟩ := hreturned i _ _ hi
    exact hpost.replays x (hown ▸ World.mem_eventsOf.mpr ⟨hx, hcaller⟩)
  · intro i j ws agentId data data' idempotencyKey recorded recorded' hi hj
    obtain ⟨r, hr, hkey, hevent⟩ := hrecorded i _ _ _ _ _ hi
    obtain ⟨r', hr', hkey', hevent'⟩ := hrecorded j _ _ _ _ _ hj
    rw [hevent, hevent', Store.row_ext_key hr hr' hkey hkey']

/-! ## A run on fixed inputs -/

/-- The hash on the texts of the run. -/
def someHash (text : String) : String :=
  if text = "session-event-key-v1\x00k" then
    "80f70e9600f5b29d8a73c5f08573361bab61b8faec9856265e42265587921467"
  else if text = "session-event-payload-v1\x00\x7b\"payload\":\x7b\x7d,\"type\":\"status.active\"\x7d" then
    "48bf49260a8eb2c86a14567e129ff155fca2a46cfb150c09323d2b5ed89df5fb"
  else ""

/-- The ids are counted, and the clock stands still. -/
def answers (id : EventId) : (q : Stmt) → q.Answer
  | .generateId => id
  | .insert _ | .apply _ => (0 : ℕ)
  | .readByKey .. => ()

/-- `active` is recorded and its caller crashes; `idle` is recorded and applied; `active` is
replayed and applied. -/
def interruptedRun : List (service someHash).Move :=
  [.start (.recordSessionEventWithIdempotency "ws" "a" ⟨.statusActive, []⟩ "k"),
    .exec 0 (answers "evt_1"), .exec 0 (answers "evt_1"),
    .start (.recordSessionEvent "ws" "a" ⟨.statusIdle, []⟩),
    .exec 1 (answers "evt_2"), .exec 1 (answers "evt_2"),
    .start (.applyStatusEventEffect ⟨"ws", "a", "evt_2", "idle"⟩), .exec 2 (answers ""),
    .start (.recordSessionEventWithIdempotency "ws" "a" ⟨.statusActive, []⟩ "k"),
    .exec 3 (answers "evt_3"), .exec 3 (answers "evt_3"), .exec 3 (answers "evt_3"),
    .start (.applyStatusEventEffect ⟨"ws", "a", "evt_1", "active"⟩), .exec 4 (answers "")]

/-- An agent without events. -/
def oneAgent : Store := ⟨Table.empty.insert ⟨"ws", "a", "online", none⟩ rfl, Table.empty⟩

def interrupted : Config lang Store Call.Result := (service someHash).runFrom oneAgent interruptedRun

/-- Does every event an effect is about carry its status? -/
def carriesStatus (w : World lang Store) (_ : ℕ) : Stmt → Bool
  | .apply e => w.store.events.rows.all fun r => !r.isEvent e.workspaceId e.agentId e.eventId ||
      (r.type.isStatus && !r.statusLegacyPending && r.carried == some e.status)
  | _ => true

lemma permits_of_carriesStatus (w : World lang Store) (i : ℕ) (q : Stmt)
    (h : carriesStatus w i q = true) : statusEvents.permits w i q := by
  cases q with
  | apply e =>
    intro r hr hevent
    have := List.all_eq_true.mp h r hr
    simp only [hevent, Bool.not_true, Bool.false_or, Bool.and_eq_true, Bool.not_eq_true',
      beq_iff_eq] at this
    exact ⟨this.1.1, this.1.2, this.2⟩
  | _ => trivial

lemma interrupted_reachable : (service someHash).Reachable statusEvents interrupted := by
  refine (service someHash).runFrom_reachable_of _ (fun r hr => absurd hr (Table.not_mem_empty r)) ?_
  exact System.allowsAll_of_passes _ permits_of_carriesStatus (fun _ _ => trivial)
    (by decide +kernel)

/-- The replay is answered with the first event, and the agent has the status of the second. -/
theorem status_effects_once_and_in_order_interrupted :
    (∀ recorded, Returned interrupted 3
      (.recordSessionEventWithIdempotency "ws" "a" ⟨.statusActive, []⟩ "k") (.ok recorded) →
      recorded.replayed = true) ∧
    ∃ a ∈ interrupted.world.store.agents, ∃ r, IsNewest interrupted.world.store a r ∧
      r.carried = some a.status ∧ a.status = "idle" := by
  obtain ⟨-, -, -, -, hreplays, -, -, hnewest⟩ :=
    status_effects_once_and_in_order someHash interrupted_reachable
  have hheld : (interrupted.world.trace.any fun x => x.caller == 3 && x.before.events.rows.any
      fun r => r.hasKey "ws" "a" (keyHash someHash "k")) = true := by decide +kernel
  have hrows : (interrupted.world.store.agents.rows.any fun a => a.status == "idle" &&
      interrupted.world.store.events.rows.any fun r => r.isOf a.workspaceId a.id &&
        r.type.isStatus && r.statusAppliedAt.isSome &&
        interrupted.world.store.events.rows.all fun r' => decide (r'.sequence ≤ r.sequence)) =
      true := by decide +kernel
  constructor
  · intro recorded hi
    obtain ⟨x, hx, hboth⟩ := List.any_eq_true.mp hheld
    obtain ⟨hcaller, hany⟩ := (Bool.and_eq_true _ _).mp hboth
    obtain ⟨r, hr, hkey⟩ := List.any_eq_true.mp hany
    exact (hreplays 3 _ _ _ _ _ hi x hx (beq_iff_eq.mp hcaller) r hr hkey).2.1
  · obtain ⟨a, ha, hboth⟩ := List.any_eq_true.mp hrows
    obtain ⟨hidle, hany⟩ := (Bool.and_eq_true _ _).mp hboth
    obtain ⟨r, hr, hfacts⟩ := List.any_eq_true.mp hany
    simp only [Bool.and_eq_true, and_assoc] at hfacts
    obtain ⟨hof, hstatus, happlied, hall⟩ := hfacts
    have hr' : IsNewest interrupted.world.store a r :=
      ⟨hr, hof, hstatus, fun r' hr' _ _ => of_decide_eq_true (List.all_eq_true.mp hall r' hr')⟩
    have hidle' : a.status = "idle" := beq_iff_eq.mp hidle
    refine ⟨a, ha, r, hr', hnewest a ha ?_ r hr' happlied, hidle'⟩
    rw [hidle']
    decide

end SessionEvent
