import Mathlib.Data.String.Basic
import Mathlib.Order.MinMax
import Relaycast.Relational.RowNumber
import Relaycast.Relational.Table

/-!
# The repair of delivery sequences

Migration 0029 gives every agent a high-water mark for the sequences of its deliveries.  Older
engines could reuse a sequence that was already acknowledged, which hides the delivery from replay;
the migration renumbers all active deliveries of such an agent above everything it has, in the
order of their creation, and then sets the marks.

A delivery is known by its id alone here.  That no two deliveries of an agent share a sequence is
`Indexed`, since the question is what the renumbering does to it.  A status is any text; only
`queued` and `delivered` matter.
-/

namespace Delivery.Sequence

open Relational

abbrev WorkspaceId := String
abbrev AgentId := String
abbrev MessageId := String
abbrev DeliveryId := String

/-- A row of `deliveries`: the columns the migration and the allocation read. -/
structure Row where
  id : DeliveryId
  workspaceId : WorkspaceId
  messageId : MessageId
  agentId : AgentId
  status : String
  seq : ℤ
  createdAt : ℤ
  deriving DecidableEq

instance : Keyed Row where
  Key := DeliveryId
  key d := d.id
  clash k k' := k == k'
  clash_comm _ _ := BEq.comm

/-- `status IN ('queued', 'delivered')`. -/
def Row.isActive (d : Row) : Bool := d.status == "queued" || d.status == "delivered"

/-- Is the delivery one of the agent? -/
def Row.isOf (d : Row) (workspaceId : WorkspaceId) (agentId : AgentId) : Bool :=
  d.workspaceId == workspaceId && d.agentId == agentId

/-- A row of `agents` before the migration. -/
structure OldAgent where
  workspaceId : WorkspaceId
  id : AgentId
  deliveryAckSeq : ℤ

/-- A row of `agents` with the column the migration adds. -/
structure Agent where
  workspaceId : WorkspaceId
  id : AgentId
  deliveryAckSeq : ℤ
  deliverySeq : ℤ

instance : Keyed OldAgent where
  Key := AgentId
  key a := a.id
  clash k k' := k == k'
  clash_comm _ _ := BEq.comm

instance : Keyed Agent where
  Key := AgentId
  key a := a.id
  clash k k' := k == k'
  clash_comm _ _ := BEq.comm

/-- The content before the migration. -/
structure Content where
  agents : Table OldAgent
  deliveries : Table Row

/-- `COALESCE((SELECT MAX(seq) FROM deliveries WHERE …), 0)`. -/
def maxSeq (deliveries : Table Row) (workspaceId : WorkspaceId) (agentId : AgentId) : ℤ :=
  (((deliveries.select fun d => d.isOf workspaceId agentId).map (·.seq)).max?).getD 0

/-! ## The renumbering -/

/-- A row of `affected_agents`. -/
structure AffectedAgent where
  workspaceId : WorkspaceId
  agentId : AgentId
  baseSeq : ℤ
  deriving DecidableEq

/-- The order of the window. -/
def Row.createdLe (d d' : Row) : Prop :=
  d.createdAt < d'.createdAt ∨ (d.createdAt = d'.createdAt ∧ d.id ≤ d'.id)

instance : DecidableRel Row.createdLe :=
  fun _ _ => inferInstanceAs (Decidable (_ ∨ _ ∧ _))

namespace Content

variable (c : Content)

/-- `EXISTS` an active delivery that the cursor hides. -/
def isAffected (a : OldAgent) : Bool :=
  c.deliveries.rows.any fun hidden => hidden.isOf a.workspaceId a.id && hidden.isActive &&
    decide (hidden.seq ≤ a.deliveryAckSeq)

/-- `affected_agents`. -/
def affectedAgents : List AffectedAgent :=
  (c.agents.select c.isAffected).map fun a =>
    ⟨a.workspaceId, a.id, max a.deliveryAckSeq (maxSeq c.deliveries a.workspaceId a.id)⟩

/-- The agent an active delivery is joined with; ids are unique, so there is at most one. -/
def affectedBy (d : Row) : Option AffectedAgent :=
  c.affectedAgents.find? fun affected => d.isOf affected.workspaceId affected.agentId

/-- The active deliveries of the affected agents. -/
def active : List Row := c.deliveries.select fun d => d.isActive && (c.affectedBy d).isSome

/-- `ROW_NUMBER()` of an active delivery among those of its agent. -/
def number (d : Row) : ℕ :=
  rowNumber Row.createdLe (c.active.filter fun d' => d'.isOf d.workspaceId d.agentId) d

/-- `ranked_active`. -/
def rankedActive : List (DeliveryId × ℤ) :=
  c.active.filterMap fun d => (c.affectedBy d).map fun affected =>
    (d.id, affected.baseSeq + c.number d)

/-- `UPDATE deliveries SET seq = …` of one row. -/
def renumbered (d : Row) : Row :=
  match c.rankedActive.lookup d.id with
  | some seq => { d with seq := seq }
  | none => d

/-- The deliveries when the update has reached some of them. -/
def partly (reached : DeliveryId → Bool) : Table Row :=
  c.deliveries.update (fun d => reached d.id) c.renumbered fun d => by
    unfold renumbered
    cases c.rankedActive.lookup d.id <;> rfl

/-- The deliveries after the update. -/
def repaired : Table Row := c.partly fun _ => true

end Content

/-- `UPDATE agents SET delivery_seq = …`, of the column that was added with zero. -/
def seeded (deliveries : Table Row) (a : OldAgent) : Agent :=
  ⟨a.workspaceId, a.id, a.deliveryAckSeq,
    max a.deliveryAckSeq (maxSeq deliveries a.workspaceId a.id)⟩

/-- The tables after the migration. -/
structure Store where
  agents : Table Agent
  deliveries : Table Row

/-- Migration 0029, up to its trigger. -/
def Content.migrated (c : Content) : Store where
  agents :=
    { rows := c.agents.rows.map (seeded c.repaired)
      unique := by
        rw [List.map_map]
        exact c.agents.unique }
  deliveries := c.repaired

/-- No two deliveries of an agent share a sequence: the index of migration 0019. -/
def Indexed (deliveries : Table Row) : Prop :=
  ∀ d ∈ deliveries, ∀ d' ∈ deliveries, d.workspaceId = d'.workspaceId → d.agentId = d'.agentId →
    d.seq = d'.seq → d = d'

/-! ## What the statements read -/

lemma isOf_iff {d : Row} {workspaceId : WorkspaceId} {agentId : AgentId} :
    d.isOf workspaceId agentId = true ↔ d.workspaceId = workspaceId ∧ d.agentId = agentId := by
  simp [Row.isOf]

lemma row_ext {deliveries : Table Row} {d d' : Row} (hd : d ∈ deliveries) (hd' : d' ∈ deliveries)
    (h : d.id = d'.id) : d = d' := by
  refine Table.eq_of_clash hd hd' ?_
  simp [clash, key, h]

lemma le_maxSeq {deliveries : Table Row} {d : Row} {workspaceId : WorkspaceId} {agentId : AgentId}
    (hd : d ∈ deliveries) (hof : d.isOf workspaceId agentId = true) :
    d.seq ≤ maxSeq deliveries workspaceId agentId := by
  unfold maxSeq
  have hmem : d.seq ∈ (deliveries.select fun d => d.isOf workspaceId agentId).map (·.seq) :=
    List.mem_map.mpr ⟨d, Table.mem_select.mpr ⟨hd, hof⟩, rfl⟩
  cases hmax : ((deliveries.select fun d => d.isOf workspaceId agentId).map (·.seq)).max? with
  | none =>
    rw [List.max?_eq_none_iff.mp hmax] at hmem
    exact absurd hmem List.not_mem_nil
  | some m => exact (List.max?_eq_some_iff.mp hmax).2 _ hmem

/-- Looking up a key that stands for one entry. -/
lemma lookup_of_mem {α β : Type} [BEq α] [LawfulBEq α] {entries : List (α × β)}
    (hnodup : (entries.map Prod.fst).Nodup) {k : α} {v : β} (h : (k, v) ∈ entries) :
    entries.lookup k = some v := by
  induction entries with
  | nil => exact absurd h List.not_mem_nil
  | cons entry entries ih =>
    obtain ⟨k', v'⟩ := entry
    obtain ⟨hk', hnodup⟩ := List.nodup_cons.mp hnodup
    rcases List.mem_cons.mp h with heq | hrest
    · obtain ⟨rfl, rfl⟩ := Prod.mk.injEq .. ▸ heq
      simp
    · have hne : k ≠ k' := by
        rintro rfl
        exact hk' (List.mem_map.mpr ⟨_, hrest, rfl⟩)
      rw [List.lookup_cons, beq_false_of_ne hne]
      exact ih hnodup hrest

lemma lookup_of_notMem {α β : Type} [BEq α] [LawfulBEq α] {entries : List (α × β)} {k : α}
    (h : ∀ v, (k, v) ∉ entries) : entries.lookup k = none := by
  cases hlookup : entries.lookup k with
  | none => rfl
  | some v =>
    obtain ⟨before, after, hsplit, -⟩ := List.lookup_eq_some_iff.mp hlookup
    refine absurd ?_ (h v)
    rw [hsplit]
    simp

namespace Content

variable {c : Content} {d d' : Row} {a : OldAgent} {affected : AffectedAgent}

lemma agent_ext {a' : OldAgent} (ha : a ∈ c.agents) (ha' : a' ∈ c.agents) (h : a.id = a'.id) :
    a = a' := by
  refine Table.eq_of_clash ha ha' ?_
  simp [clash, key, h]

/-- An active delivery is joined with its own agent. -/
lemma affectedBy_cases (h : c.affectedBy d = some affected) :
    ∃ a ∈ c.agents, c.isAffected a = true ∧ d.isOf a.workspaceId a.id = true ∧
      affected = ⟨a.workspaceId, a.id,
        max a.deliveryAckSeq (maxSeq c.deliveries a.workspaceId a.id)⟩ := by
  unfold affectedBy at h
  have hof := List.find?_some h
  obtain ⟨a, hmem, rfl⟩ := List.mem_map.mp (List.mem_of_find?_eq_some h)
  obtain ⟨ha, haffected⟩ := Table.mem_select.mp hmem
  exact ⟨a, ha, haffected, hof, rfl⟩

lemma affectedBy_of (ha : a ∈ c.agents) (haffected : c.isAffected a = true)
    (hof : d.isOf a.workspaceId a.id = true) :
    c.affectedBy d = some ⟨a.workspaceId, a.id,
      max a.deliveryAckSeq (maxSeq c.deliveries a.workspaceId a.id)⟩ := by
  cases h : c.affectedBy d with
  | none =>
    have hmem : (⟨a.workspaceId, a.id,
        max a.deliveryAckSeq (maxSeq c.deliveries a.workspaceId a.id)⟩ : AffectedAgent) ∈
        c.affectedAgents := List.mem_map.mpr ⟨a, Table.mem_select.mpr ⟨ha, haffected⟩, rfl⟩
    exact absurd hof (List.find?_eq_none.mp h _ hmem)
  | some affected =>
    obtain ⟨a', ha', -, hof', rfl⟩ := affectedBy_cases h
    rw [agent_ext ha' ha ((isOf_iff.mp hof').2.symm.trans (isOf_iff.mp hof).2)]

lemma mem_active : d ∈ c.active ↔
    d ∈ c.deliveries ∧ d.isActive = true ∧ (c.affectedBy d).isSome = true := by
  simp [active]

lemma rankedActive_nodup : (c.rankedActive.map Prod.fst).Nodup := by
  have hids : (c.deliveries.rows.map (·.id)).Nodup :=
    c.deliveries.nodup_map fun d d' h => by simp [clash, key, h]
  have hsub : (c.rankedActive.map Prod.fst).Sublist (c.active.map (·.id)) :=
    map_filterMap_sublist (fun d entry h => by
      obtain ⟨affected, -, rfl⟩ := Option.map_eq_some_iff.mp h
      rfl) c.active
  exact (hids.sublist (List.filter_sublist.map _)).sublist hsub

/-- An active delivery of an affected agent gets its number above the base. -/
lemma renumbered_active (hd : d ∈ c.deliveries) (hactive : d.isActive = true)
    (haffected : c.affectedBy d = some affected) :
    c.renumbered d = { d with seq := affected.baseSeq + c.number d } := by
  have hmem : (d.id, affected.baseSeq + (c.number d : ℤ)) ∈ c.rankedActive := by
    refine List.mem_filterMap.mpr ⟨d, mem_active.mpr ⟨hd, hactive, by simp [haffected]⟩, ?_⟩
    rw [haffected]
    rfl
  rw [renumbered, lookup_of_mem rankedActive_nodup hmem]

/-- Every other delivery is left alone. -/
lemma renumbered_other (hd : d ∈ c.deliveries)
    (h : ¬ (d.isActive = true ∧ (c.affectedBy d).isSome = true)) : c.renumbered d = d := by
  have hnone : ∀ seq, (d.id, seq) ∉ c.rankedActive := by
    intro seq hmem
    obtain ⟨d', hd', hentry⟩ := List.mem_filterMap.mp hmem
    obtain ⟨affected, -, heq⟩ := Option.map_eq_some_iff.mp hentry
    obtain ⟨hd', hboth⟩ := mem_active.mp hd'
    rw [row_ext hd' hd (Prod.mk.injEq .. ▸ heq).1] at hboth
    exact h hboth
  rw [renumbered, lookup_of_notMem hnone]

/-- Only the sequence changes. -/
lemma renumbered_eq (c : Content) (d : Row) :
    c.renumbered d = { d with seq := (c.renumbered d).seq } := by
  unfold renumbered
  cases c.rankedActive.lookup d.id <;> rfl

lemma renumbered_isOf (workspaceId : WorkspaceId) (agentId : AgentId) :
    (c.renumbered d).isOf workspaceId agentId = d.isOf workspaceId agentId := by
  rw [renumbered_eq]
  rfl

lemma renumbered_isActive : (c.renumbered d).isActive = d.isActive := by
  rw [renumbered_eq]
  rfl

/-- A renumbered delivery goes above everything its agent has. -/
lemma lt_renumbered (hd : d ∈ c.deliveries) (hactive : d.isActive = true)
    (haffected : c.affectedBy d = some affected) (hd' : d' ∈ c.deliveries)
    (hws : d.workspaceId = d'.workspaceId) (hagent : d.agentId = d'.agentId) :
    d'.seq < (c.renumbered d).seq := by
  rw [renumbered_active hd hactive haffected]
  obtain ⟨a, -, -, hof, rfl⟩ := affectedBy_cases haffected
  obtain ⟨hws', hagent'⟩ := isOf_iff.mp hof
  have hle := le_maxSeq hd' (isOf_iff.mpr ⟨hws.symm.trans hws', hagent.symm.trans hagent'⟩)
  have hmax := le_max_right a.deliveryAckSeq (maxSeq c.deliveries a.workspaceId a.id)
  have hpos : 0 < c.number d := rowNumber_pos
  dsimp only
  omega

end Content

end Delivery.Sequence
