import Mathlib.Logic.Relation
import Relaycast.Delivery.SequenceRepair

/-!
# Delivery sequences only grow

After the migration a trigger raises an agent's mark with every delivery that is inserted, and an
insert allocates above the mark and above the cursor.  All rows of one insert are computed before
the first of them is stored; a second row for one agent would get the sequence of the first, and
the unique index drops it.

`Actions` are what happens to the two tables from then on: inserts, cumulative acks, changes of
status, and deletions.  The recipients of an insert are agents of its workspace, as the members of
a channel or of a conversation are.  `allocated` lists the sequences that were allocated, latest
first.  No action reads it.
-/

namespace Delivery.Sequence

open Relational

/-! ## The model -/

/-- The two tables, and what has been allocated. -/
structure State extends Store where
  allocated : List Row

/-- A recipient of a new delivery, with the values its row gets besides the sequence. -/
structure Candidate where
  id : DeliveryId
  messageId : MessageId
  agentId : AgentId
  status : String
  createdAt : ℤ

namespace State

variable (s : State)

/-- `nextDeliverySeqSql`. -/
def nextDeliverySeq (a : Agent) : ℤ := max a.deliverySeq a.deliveryAckSeq + 1

/-- The rows of an insert, before the first of them is stored. -/
def newRows (workspaceId : WorkspaceId) (candidates : List Candidate) : List Row :=
  candidates.filterMap fun candidate =>
    (s.agents.rows.find? fun a => a.id == candidate.agentId && a.workspaceId == workspaceId).map
      fun a => ⟨candidate.id, workspaceId, candidate.messageId, candidate.agentId,
        candidate.status, nextDeliverySeq a, candidate.createdAt⟩

/-- Does a unique index forbid the row? -/
def refuses (row : Row) : Bool :=
  s.deliveries.rows.any fun d => d.id == row.id ||
    (d.messageId == row.messageId && d.agentId == row.agentId) ||
    (d.isOf row.workspaceId row.agentId && d.seq == row.seq)

/-- `deliveries_advance_sequence_high_water`. -/
def advance (row : Row) (agents : Table Agent) : Table Agent :=
  agents.update (fun a => a.id == row.agentId && a.workspaceId == row.workspaceId)
    (fun a => { a with deliverySeq := max a.deliverySeq row.seq }) fun _ => rfl

/-- The cursor update of `ackRows`. -/
def moveCursor (workspaceId : WorkspaceId) (agentId : AgentId) (advanceCursorTo : ℤ)
    (agents : Table Agent) : Table Agent :=
  agents.update (fun a => a.workspaceId == workspaceId && a.id == agentId)
    (fun a => { a with
      deliveryAckSeq :=
        if a.deliveryAckSeq < advanceCursorTo then advanceCursorTo else a.deliveryAckSeq })
    fun _ => rfl

/-- Store one row of an insert, and run the trigger; nothing where an index forbids it. -/
def storeRow (row : Row) : State :=
  if s.refuses row then s
  else
    { agents := advance row s.agents
      deliveries := s.deliveries.insertOrIgnore row
      allocated := row :: s.allocated }

/-- Store rows one after the other. -/
def storeRows : State → List Row → State
  | s, [] => s
  | s, row :: rows => storeRows (s.storeRow row) rows

end State

/-- What happens to the tables. -/
inductive Action
  | insert (workspaceId : WorkspaceId) (candidates : List Candidate)
  | ack (workspaceId : WorkspaceId) (agentId : AgentId) (advanceCursorTo : ℤ)
  | setStatus (ids : List DeliveryId) (status : String)
  | delete (ids : List DeliveryId)
  | deleteAgents (ids : List AgentId)

namespace State

/-- One action. -/
def act (s : State) : Action → State
  | .insert workspaceId candidates => s.storeRows (s.newRows workspaceId candidates)
  | .ack workspaceId agentId advanceCursorTo =>
    { s with agents := moveCursor workspaceId agentId advanceCursorTo s.agents }
  | .setStatus ids status =>
    { s with
      deliveries := s.deliveries.update (fun d => ids.contains d.id)
        (fun d => { d with status := status }) fun _ => rfl }
  | .delete ids => { s with deliveries := s.deliveries.deleteWhere fun d => ids.contains d.id }
  | .deleteAgents ids =>
    { agents := s.agents.deleteWhere fun a => ids.contains a.id
      deliveries := s.deliveries.deleteWhere fun d => ids.contains d.agentId
      allocated := s.allocated }

/-- Reachable from the content the migration has run on. -/
def Reachable (c : Content) (s : State) : Prop :=
  Relation.ReflTransGen (fun s s' => ∃ a, s' = act s a) ⟨c.migrated, []⟩ s

end State

/-! ## The migration -/

namespace Content

variable {c : Content} {d d' : Row}

/-- A row of a partly updated table comes from one of the same id. -/
lemma partly_cases {reached : DeliveryId → Bool} (hd : d ∈ c.partly reached) :
    ∃ b ∈ c.deliveries, b.id = d.id ∧ b.workspaceId = d.workspaceId ∧ b.agentId = d.agentId ∧
      b.status = d.status ∧ b.createdAt = d.createdAt ∧ (d = b ∨ d = c.renumbered b) := by
  rcases Table.mem_update_cases hd with ⟨hold, -⟩ | ⟨b, hb, -, rfl⟩
  · exact ⟨d, hold, rfl, rfl, rfl, rfl, rfl, .inl rfl⟩
  · rw [renumbered_eq]
    exact ⟨b, hb, rfl, rfl, rfl, rfl, rfl, .inr (renumbered_eq c b).symm⟩

/-- **No collisions are made.**  At no point of the update do two deliveries of an agent share a
sequence that did not share it before. -/
lemma partly_collides {reached : DeliveryId → Bool} (hd : d ∈ c.partly reached)
    (hd' : d' ∈ c.partly reached) (hws : d.workspaceId = d'.workspaceId)
    (hagent : d.agentId = d'.agentId) (hseq : d.seq = d'.seq) :
    d = d' ∨ (d ∈ c.deliveries ∧ d' ∈ c.deliveries) := by
  obtain ⟨b, hb, -, hbws, hbagent, -, -, hcase⟩ := partly_cases hd
  obtain ⟨b', hb', -, hbws', hbagent', -, -, hcase'⟩ := partly_cases hd'
  have hws' : b.workspaceId = b'.workspaceId := by rw [hbws, hbws', hws]
  have hagent' : b.agentId = b'.agentId := by rw [hbagent, hbagent', hagent]
  have hmoves : ∀ x ∈ c.deliveries, c.renumbered x ≠ x →
      x.isActive = true ∧ ∃ affected, c.affectedBy x = some affected := by
    intro x hx hne
    by_contra hnot
    refine hne (renumbered_other hx fun hboth => hnot ⟨hboth.1, Option.isSome_iff_exists.mp hboth.2⟩)
  by_cases hmoved : d = b
  · by_cases hmoved' : d' = b'
    · exact .inr ⟨hmoved ▸ hb, hmoved' ▸ hb'⟩
    · obtain hr' : d' = c.renumbered b' := hcase'.resolve_left hmoved'
      obtain ⟨hactive, affected, haffected⟩ := hmoves b' hb' fun h => hmoved' (hr'.trans h)
      have := lt_renumbered hb' hactive haffected hb hws'.symm hagent'.symm
      rw [← hr', ← hmoved] at this
      omega
  · obtain hr : d = c.renumbered b := hcase.resolve_left hmoved
    obtain ⟨hactive, affected, haffected⟩ := hmoves b hb fun h => hmoved (hr.trans h)
    by_cases hmoved' : d' = b'
    · have := lt_renumbered hb hactive haffected hb' hws' hagent'
      rw [← hr, ← hmoved'] at this
      omega
    · -- Both are renumbered over one base, so they have one number.
      obtain hr' : d' = c.renumbered b' := hcase'.resolve_left hmoved'
      obtain ⟨hactive', affected', haffected'⟩ := hmoves b' hb' fun h => hmoved' (hr'.trans h)
      have hsame : c.affectedBy b = c.affectedBy b' := by
        unfold affectedBy Row.isOf
        rw [hws', hagent']
      obtain rfl : affected = affected' :=
        Option.some.inj (haffected.symm.trans (hsame.trans haffected'))
      rw [hr, hr', renumbered_active hb hactive haffected,
        renumbered_active hb' hactive' haffected'] at hseq
      have hnumber : c.number b = c.number b' := by
        dsimp only at hseq
        omega
      unfold number at hnumber
      rw [hws', hagent'] at hnumber
      have hmem : b ∈ c.active.filter fun d' => d'.isOf b'.workspaceId b'.agentId :=
        List.mem_filter.mpr ⟨mem_active.mpr ⟨hb, hactive, by simp [haffected]⟩,
          isOf_iff.mpr ⟨hws', hagent'⟩⟩
      obtain rfl := rowNumber_inj hmem hnumber
      exact .inl (hr.trans hr'.symm)

lemma partly_indexed (h : Indexed c.deliveries) (reached : DeliveryId → Bool) :
    Indexed (c.partly reached) := by
  intro d hd d' hd' hws hagent hseq
  rcases partly_collides hd hd' hws hagent hseq with heq | ⟨hb, hb'⟩
  · exact heq
  · exact h d hb d' hb' hws hagent hseq

lemma mem_repaired : d ∈ c.repaired ↔ ∃ b ∈ c.deliveries, d = c.renumbered b := by
  unfold repaired partly
  rw [Table.mem_update]
  simp

/-- Every active delivery is above the cursor. -/
lemma ack_lt_repaired {a : OldAgent} (ha : a ∈ c.agents) (hd : d ∈ c.repaired)
    (hof : d.isOf a.workspaceId a.id = true) (hactive : d.isActive = true) :
    a.deliveryAckSeq < d.seq := by
  obtain ⟨b, hb, rfl⟩ := mem_repaired.mp hd
  rw [renumbered_isOf] at hof
  rw [renumbered_isActive] at hactive
  cases haffected : c.isAffected a with
  | true =>
    rw [renumbered_active hb hactive (affectedBy_of ha haffected hof)]
    have hmax := le_max_left a.deliveryAckSeq (maxSeq c.deliveries a.workspaceId a.id)
    have hpos : 0 < c.number b := rowNumber_pos
    dsimp only
    omega
  | false =>
    have hvisible := List.any_eq_false.mp haffected b hb
    simp only [hof, hactive, Bool.and_self, Bool.true_and, decide_eq_true_eq, not_le] at hvisible
    rw [renumbered_other hb]
    · exact hvisible
    · rintro ⟨-, hsome⟩
      obtain ⟨affected, hby⟩ := Option.isSome_iff_exists.mp hsome
      obtain ⟨a', ha', haffected', hof', -⟩ := affectedBy_cases hby
      rw [agent_ext ha' ha ((isOf_iff.mp hof').2.symm.trans (isOf_iff.mp hof).2),
        haffected] at haffected'
      cases haffected'

instance : Std.Total Row.createdLe where
  total d d' := by
    unfold Row.createdLe
    rcases lt_trichotomy d.createdAt d'.createdAt with h | h | h
    · exact .inl (.inl h)
    · rcases le_total d.id d'.id with hid | hid
      · exact .inl (.inr ⟨h, hid⟩)
      · exact .inr (.inr ⟨h.symm, hid⟩)
    · exact .inr (.inl h)

instance : IsTrans Row Row.createdLe where
  trans d d' d'' := by
    unfold Row.createdLe
    rintro (h | ⟨h, hid⟩) (h' | ⟨h', hid'⟩)
    · exact .inl (by omega)
    · exact .inl (by omega)
    · exact .inl (by omega)
    · exact .inr ⟨by omega, hid.trans hid'⟩

/-- Active deliveries of a repaired agent are in the order of their creation. -/
lemma repaired_order {a : OldAgent} (ha : a ∈ c.agents) (haffected : c.isAffected a = true)
    (hd : d ∈ c.repaired) (hd' : d' ∈ c.repaired) (hof : d.isOf a.workspaceId a.id = true)
    (hof' : d'.isOf a.workspaceId a.id = true) (hactive : d.isActive = true)
    (hactive' : d'.isActive = true) :
    d.seq < d'.seq ↔
      d.createdAt < d'.createdAt ∨ (d.createdAt = d'.createdAt ∧ d.id < d'.id) := by
  obtain ⟨b, hb, rfl⟩ := mem_repaired.mp hd
  obtain ⟨b', hb', rfl⟩ := mem_repaired.mp hd'
  rw [renumbered_isOf] at hof hof'
  rw [renumbered_isActive] at hactive hactive'
  have hby := affectedBy_of ha haffected hof
  have hby' := affectedBy_of ha haffected hof'
  rw [renumbered_active hb hactive hby, renumbered_active hb' hactive' hby']
  dsimp only
  obtain ⟨hws, hagent⟩ := isOf_iff.mp hof
  obtain ⟨hws', hagent'⟩ := isOf_iff.mp hof'
  have hmem : b ∈ c.active.filter fun d' => d'.isOf a.workspaceId a.id :=
    List.mem_filter.mpr ⟨mem_active.mpr ⟨hb, hactive, by simp [hby]⟩, hof⟩
  have hmem' : b' ∈ c.active.filter fun d' => d'.isOf a.workspaceId a.id :=
    List.mem_filter.mpr ⟨mem_active.mpr ⟨hb', hactive', by simp [hby']⟩, hof'⟩
  have hanti : Row.createdLe b b' → Row.createdLe b' b → b = b' := fun hle hge =>
    row_ext hb hb' (by
      rcases hle with h | ⟨h, hid⟩ <;> rcases hge with h' | ⟨h', hid'⟩
      · omega
      · omega
      · omega
      · exact le_antisymm hid hid')
  have hlt := rowNumber_lt_iff hmem hmem' hanti
  unfold number
  rw [hws, hws', hagent, hagent']
  constructor
  · intro h
    obtain ⟨hle, hne⟩ := hlt.mp (by omega)
    rcases hle with hcreated | ⟨hcreated, hid⟩
    · exact .inl hcreated
    · exact .inr ⟨hcreated, lt_of_le_of_ne hid fun h => hne (row_ext hb hb' h)⟩
  · intro h
    have := hlt.mpr (by
      rcases h with hcreated | ⟨hcreated, hid⟩
      · exact ⟨.inl hcreated, fun heq => by rw [heq] at hcreated; omega⟩
      · exact ⟨.inr ⟨hcreated, hid.le⟩, fun heq => by rw [heq] at hid; exact lt_irrefl _ hid⟩)
    omega

/-- Deliveries of an agent that needed no repair are as they were, and so are settled ones. -/
lemma renumbered_spared (hd : d ∈ c.deliveries)
    (h : d.isActive = false ∨ ∀ a ∈ c.agents, d.isOf a.workspaceId a.id = true →
      c.isAffected a = false) : c.renumbered d = d := by
  refine renumbered_other hd ?_
  rintro ⟨hactive, hsome⟩
  rcases h with hsettled | hspared
  · simp [hactive] at hsettled
  · obtain ⟨affected, hby⟩ := Option.isSome_iff_exists.mp hsome
    obtain ⟨a, ha, haffected, hof, -⟩ := affectedBy_cases hby
    simp [hspared a ha hof] at haffected

/-- The marks are above the cursors and all sequences. -/
lemma migrated_agent {a : Agent} (ha : a ∈ c.migrated.agents) :
    a.deliveryAckSeq ≤ a.deliverySeq ∧
      ∀ d ∈ c.migrated.deliveries, d.isOf a.workspaceId a.id = true → d.seq ≤ a.deliverySeq := by
  obtain ⟨old, -, rfl⟩ := List.mem_map.mp ha
  refine ⟨le_max_left .., fun d hd hof => ?_⟩
  exact (le_maxSeq hd hof).trans (le_max_right ..)

lemma le_renumbered (hd : d ∈ c.deliveries) : d.seq ≤ (c.renumbered d).seq := by
  by_cases h : d.isActive = true ∧ (c.affectedBy d).isSome = true
  · obtain ⟨affected, haffected⟩ := Option.isSome_iff_exists.mp h.2
    exact (lt_renumbered hd h.1 haffected hd rfl rfl).le
  · rw [renumbered_other hd h]

end Content

/-! ## Allocation -/

/-- Are they deliveries of one agent? -/
def SameAgent (d d' : Row) : Prop := d.workspaceId = d'.workspaceId ∧ d.agentId = d'.agentId

/-- The deliveries of the content before and after the migration. -/
def Content.all (c : Content) : List Row := c.migrated.deliveries.rows ++ c.deliveries.rows

/-- What holds from the migration on: the marks are above every sequence, and sequences were
allocated in order. -/
structure Grown (c : Content) (s : State) : Prop where
  mark : ∀ a ∈ s.agents, ∀ d ∈ s.allocated ++ c.all, d.isOf a.workspaceId a.id = true →
    d.seq ≤ a.deliverySeq
  ordered : s.allocated.Pairwise fun new old => SameAgent old new → old.seq < new.seq
  above : ∀ d ∈ s.allocated, ∀ old ∈ c.all, SameAgent old d → old.seq < d.seq

variable {c : Content} {s : State}

lemma grown_migrated (c : Content) : Grown c ⟨c.migrated, []⟩ := by
  refine ⟨fun a ha d hd hof => ?_, .nil, fun d hd => absurd hd List.not_mem_nil⟩
  obtain ⟨-, hmark⟩ := Content.migrated_agent ha
  have hd' : d ∈ c.migrated.deliveries ∨ d ∈ c.deliveries := List.mem_append.mp hd
  rcases hd' with hd' | hd'
  · exact hmark d hd' hof
  · have hnew : c.renumbered d ∈ c.migrated.deliveries := Content.mem_repaired.mpr ⟨d, hd', rfl⟩
    have hof' := (Content.renumbered_isOf (c := c) (d := d) a.workspaceId a.id).trans hof
    exact (Content.le_renumbered hd').trans (hmark _ hnew hof')

/-- An action that allocates nothing and lowers no mark. -/
lemma Grown.of_marks {s' : State} (h : Grown c s) (hallocated : s'.allocated = s.allocated)
    (hagents : ∀ a' ∈ s'.agents, ∃ a ∈ s.agents, a.workspaceId = a'.workspaceId ∧ a.id = a'.id ∧
      a.deliverySeq ≤ a'.deliverySeq) : Grown c s' := by
  refine ⟨fun a' ha' d hd hof => ?_, hallocated ▸ h.ordered, hallocated ▸ h.above⟩
  obtain ⟨a, ha, hws, hid, hle⟩ := hagents a' ha'
  rw [hallocated] at hd
  exact (h.mark a ha d hd (by rwa [hws, hid])).trans hle

/-- The trigger raises the mark of the row's agent. -/
lemma advance_cases {row : Row} {agents : Table Agent} {a' : Agent}
    (ha' : a' ∈ State.advance row agents) :
    ∃ a ∈ agents, a.workspaceId = a'.workspaceId ∧ a.id = a'.id ∧ a.deliverySeq ≤ a'.deliverySeq ∧
      (row.isOf a'.workspaceId a'.id = true → row.seq ≤ a'.deliverySeq) := by
  unfold State.advance at ha'
  rcases Table.mem_update_cases ha' with ⟨hold, hmiss⟩ | ⟨a, ha, -, rfl⟩
  · refine ⟨a', hold, rfl, rfl, le_refl _, fun hof => ?_⟩
    obtain ⟨hws, hid⟩ := isOf_iff.mp hof
    simp [hws, hid] at hmiss
  · exact ⟨a, ha, rfl, rfl, le_max_left .., fun _ => le_max_right ..⟩

/-- The row may still be stored: its sequence is above all others of its agent, unless an index
forbids it. -/
def Storable (c : Content) (s : State) (row : Row) : Prop :=
  (∀ d ∈ s.allocated ++ c.all, SameAgent d row → d.seq < row.seq) ∨ s.refuses row = true

lemma Grown.storeRow (h : Grown c s) {row : Row} (hrow : Storable c s row) :
    Grown c (s.storeRow row) := by
  unfold State.storeRow
  split_ifs with hrefuses
  · exact h
  · have hnew := hrow.resolve_right hrefuses
    refine ⟨fun a' ha' d hd hof => ?_, ?_, fun d hd old hold hsame => ?_⟩
    · obtain ⟨a, ha, hws, hid, hle, hrow'⟩ := advance_cases ha'
      rcases List.mem_cons.mp hd with rfl | hd
      · exact hrow' hof
      · exact (h.mark a ha d hd (by rwa [hws, hid])).trans hle
    · exact List.pairwise_cons.mpr
        ⟨fun d hd hsame => hnew d (List.mem_append_left _ hd) hsame, h.ordered⟩
    · rcases List.mem_cons.mp hd with rfl | hd
      · exact hnew old (List.mem_append_right _ hold) hsame
      · exact h.above d hd old hold hsame

/-- A row that has been stored stands in the way of another row with its sequence, and of no row
of another agent. -/
lemma Storable.storeRow {row row' : Row} (h : Storable c s row')
    (hseq : SameAgent row row' → row.seq = row'.seq) : Storable c (s.storeRow row) row' := by
  unfold State.storeRow
  split_ifs with hrefuses
  · exact h
  · have hfree : s.deliveries.conflicts row = false := by
      refine List.any_eq_false.mpr fun d hd hclash => ?_
      have hno : s.refuses row = false := by simpa using hrefuses
      have hid : (d.id == row.id) = true := hclash
      have := List.any_eq_false.mp hno d hd
      simp [hid] at this
    by_cases hsame : SameAgent row row'
    · refine .inr (List.any_eq_true.mpr ⟨row, Table.mem_insertOrIgnore_self hfree, ?_⟩)
      have hof : row.isOf row'.workspaceId row'.agentId = true := isOf_iff.mpr hsame
      simp [hof, hseq hsame]
    · rcases h with habove | hrefused
      · refine .inl fun d hd hsame' => ?_
        rcases List.mem_cons.mp hd with rfl | hd
        · exact absurd hsame' hsame
        · exact habove d hd hsame'
      · obtain ⟨d, hd, hboth⟩ := List.any_eq_true.mp hrefused
        exact .inr (List.any_eq_true.mpr ⟨d, Table.mem_insertOrIgnore_of_mem hd, hboth⟩)

/-- Rows of one insert that are of one agent have one sequence. -/
lemma Grown.storeRows {rows : List Row} (h : Grown c s) (hrows : ∀ row ∈ rows, Storable c s row)
    (hseq : ∀ row ∈ rows, ∀ row' ∈ rows, SameAgent row row' → row.seq = row'.seq) :
    Grown c (s.storeRows rows) := by
  induction rows generalizing s with
  | nil => exact h
  | cons row rows ih =>
    refine ih (h.storeRow (hrows row List.mem_cons_self)) (fun row' hrow' => ?_)
      fun r hr r' hr' => hseq r (List.mem_cons_of_mem _ hr) r' (List.mem_cons_of_mem _ hr')
    exact (hrows row' (List.mem_cons_of_mem _ hrow')).storeRow
      (hseq row List.mem_cons_self row' (List.mem_cons_of_mem _ hrow'))

lemma mem_newRows {workspaceId : WorkspaceId} {candidates : List Candidate} {row : Row}
    (h : row ∈ s.newRows workspaceId candidates) :
    ∃ a ∈ s.agents, row.isOf a.workspaceId a.id = true ∧ row.seq = State.nextDeliverySeq a := by
  obtain ⟨candidate, -, hrow⟩ := List.mem_filterMap.mp h
  obtain ⟨a, hfind, rfl⟩ := Option.map_eq_some_iff.mp hrow
  have hboth := List.find?_some hfind
  simp only [Bool.and_eq_true, beq_iff_eq] at hboth
  exact ⟨a, List.mem_of_find?_eq_some hfind, isOf_iff.mpr ⟨hboth.2.symm, hboth.1.symm⟩, rfl⟩

lemma Grown.insert (h : Grown c s) (workspaceId : WorkspaceId) (candidates : List Candidate) :
    Grown c (s.act (.insert workspaceId candidates)) := by
  refine h.storeRows (fun row hrow => .inl fun d hd hsame => ?_) fun row hrow row' hrow' hsame => ?_
  · obtain ⟨a, ha, hof, hseq⟩ := mem_newRows hrow
    obtain ⟨hws, hagent⟩ := isOf_iff.mp hof
    have hle := h.mark a ha d hd (isOf_iff.mpr ⟨hsame.1.trans hws, hsame.2.trans hagent⟩)
    have hmax := le_max_left a.deliverySeq a.deliveryAckSeq
    unfold State.nextDeliverySeq at hseq
    omega
  · obtain ⟨a, ha, hof, hseq⟩ := mem_newRows hrow
    obtain ⟨a', ha', hof', hseq'⟩ := mem_newRows hrow'
    have hids : a.id = a'.id :=
      (isOf_iff.mp hof).2.symm.trans (hsame.2.trans (isOf_iff.mp hof').2)
    have hagents : a = a' := Table.eq_of_clash ha ha' (by simp [clash, key, hids])
    rw [hseq, hseq', hagents]

lemma Grown.act (h : Grown c s) (action : Action) : Grown c (s.act action) := by
  cases action with
  | insert workspaceId candidates => exact h.insert workspaceId candidates
  | ack workspaceId agentId advanceCursorTo =>
    refine h.of_marks rfl fun a' ha' => ?_
    change a' ∈ State.moveCursor workspaceId agentId advanceCursorTo s.agents at ha'
    unfold State.moveCursor at ha'
    rcases Table.mem_update_cases ha' with ⟨hold, -⟩ | ⟨a, ha, -, rfl⟩
    · exact ⟨a', hold, rfl, rfl, le_refl _⟩
    · exact ⟨a, ha, rfl, rfl, le_refl _⟩
  | setStatus ids status => exact h.of_marks rfl fun a ha => ⟨a, ha, rfl, rfl, le_refl _⟩
  | delete ids => exact h.of_marks rfl fun a ha => ⟨a, ha, rfl, rfl, le_refl _⟩
  | deleteAgents ids =>
    exact h.of_marks rfl fun a ha => ⟨a, (Table.mem_deleteWhere.mp ha).1, rfl, rfl, le_refl _⟩

lemma grown_reachable (h : State.Reachable c s) : Grown c s := by
  induction h with
  | refl => exact grown_migrated c
  | tail _ hstep ih =>
    obtain ⟨action, rfl⟩ := hstep
    exact ih.act action

/-- **The migration repairs the sequences.**  It keeps the index at every point of the update.
Afterwards every active delivery is above the cursor of its agent, and those of a repaired agent
are in the order of their creation; the marks are above cursors and sequences; only sequences have
changed, and only those of active deliveries of repaired agents.  From then on an allocated
sequence is above all that were allocated since, and all that were in the table before and after
the migration. -/
theorem migration_repairs_sequences (c : Content) :
    (Indexed c.deliveries → (∀ reached, Indexed (c.partly reached)) ∧
      Indexed c.migrated.deliveries) ∧
    (∀ a ∈ c.agents, ∀ d ∈ c.migrated.deliveries, d.isOf a.workspaceId a.id = true →
      d.isActive = true → a.deliveryAckSeq < d.seq) ∧
    (∀ a ∈ c.agents, c.isAffected a = true → ∀ d ∈ c.migrated.deliveries,
      ∀ d' ∈ c.migrated.deliveries, d.isOf a.workspaceId a.id = true →
      d'.isOf a.workspaceId a.id = true → d.isActive = true → d'.isActive = true →
      (d.seq < d'.seq ↔
        d.createdAt < d'.createdAt ∨ (d.createdAt = d'.createdAt ∧ d.id < d'.id))) ∧
    (∀ a ∈ c.migrated.agents, a.deliveryAckSeq ≤ a.deliverySeq ∧
      ∀ d ∈ c.migrated.deliveries, d.isOf a.workspaceId a.id = true → d.seq ≤ a.deliverySeq) ∧
    (∀ d ∈ c.deliveries, ∃ d' ∈ c.migrated.deliveries, d' = { d with seq := d'.seq } ∧
      (d.isActive = false ∨ (∀ a ∈ c.agents, d.isOf a.workspaceId a.id = true →
        c.isAffected a = false) → d' = d)) ∧
    ∀ s, State.Reachable c s →
      s.allocated.Pairwise (fun new old => SameAgent old new → old.seq < new.seq) ∧
      ∀ d ∈ s.allocated, ∀ old ∈ c.migrated.deliveries.rows ++ c.deliveries.rows,
        SameAgent old d → old.seq < d.seq := by
  refine ⟨fun h => ⟨Content.partly_indexed h, Content.partly_indexed h _⟩,
    fun a ha d hd => Content.ack_lt_repaired ha hd,
    fun a ha haffected d hd d' hd' => Content.repaired_order ha haffected hd hd',
    fun a ha => Content.migrated_agent ha, fun d hd => ?_, fun s hs => ?_⟩
  · exact ⟨c.renumbered d, Content.mem_repaired.mpr ⟨d, hd, rfl⟩, Content.renumbered_eq c d,
      Content.renumbered_spared hd⟩
  · have hgrown := grown_reachable hs
    exact ⟨hgrown.ordered, hgrown.above⟩

/-! ## Contents on fixed inputs -/

instance (deliveries : Table Row) : Decidable (Indexed deliveries) :=
  inferInstanceAs (Decidable (∀ d ∈ deliveries.rows, ∀ d' ∈ deliveries.rows,
    d.workspaceId = d'.workspaceId → d.agentId = d'.agentId → d.seq = d'.seq → d = d'))

/-- An agent with a hidden delivery, one that needs no repair, and one without deliveries. -/
def threeAgents : Content where
  agents := ⟨[⟨"ws_1", "affected", 5⟩, ⟨"ws_1", "healthy", 2⟩, ⟨"ws_1", "pruned", 7⟩], by decide⟩
  deliveries :=
    ⟨[⟨"terminal_collision", "ws_1", "m_1", "affected", "acked", 10, 50⟩,
      ⟨"hidden_older", "ws_1", "m_2", "affected", "queued", 4, 100⟩,
      ⟨"visible_newer", "ws_1", "m_3", "affected", "delivered", 8, 200⟩,
      ⟨"healthy_active", "ws_1", "m_1", "healthy", "queued", 4, 100⟩], by decide⟩

/-- A message to all three of them, after the migration. -/
def afterMessage : State :=
  State.act ⟨threeAgents.migrated, []⟩ (.insert "ws_1"
    [⟨"del_1", "m_4", "affected", "queued", 300⟩, ⟨"del_2", "m_4", "healthy", "queued", 300⟩,
      ⟨"del_3", "m_4", "pruned", "queued", 300⟩])

theorem migration_repairs_sequences_threeAgents :
    Indexed threeAgents.migrated.deliveries ∧
    threeAgents.migrated.deliveries.rows.map (·.seq) = [10, 11, 12, 4] ∧
    afterMessage.allocated.map (·.seq) = [8, 5, 13] ∧
    ∀ d ∈ afterMessage.allocated, ∀ old ∈ threeAgents.all, SameAgent old d → old.seq < d.seq := by
  obtain ⟨hindexed, -, -, -, -, hruns⟩ := migration_repairs_sequences threeAgents
  have hreachable : State.Reachable threeAgents afterMessage := .single ⟨_, rfl⟩
  exact ⟨(hindexed (by decide +kernel)).2, by decide +kernel, by decide +kernel,
    (hruns _ hreachable).2⟩

/-- Two settled deliveries that share a sequence, which the index does not let in. -/
def sharedSequence : Content where
  agents := ⟨[⟨"ws_1", "a", 1⟩], by decide⟩
  deliveries :=
    ⟨[⟨"del_1", "ws_1", "m_1", "a", "acked", 1, 100⟩,
      ⟨"del_2", "ws_1", "m_2", "a", "acked", 1, 200⟩], by decide⟩

/-- Without the index the migration leaves settled deliveries with a shared sequence. -/
theorem migration_keeps_shared_sequence : ¬ ∀ c : Content, Indexed c.migrated.deliveries := by
  intro h
  have hnot : ¬ Indexed sharedSequence.migrated.deliveries := by decide +kernel
  exact hnot (h sharedSequence)

end Delivery.Sequence
