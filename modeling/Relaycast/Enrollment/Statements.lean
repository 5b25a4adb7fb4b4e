import Relaycast.Enrollment.Service

/-!
# What the statements do to the nodes

A statement leaves the nodes alone, updates one row, or inserts one (`run_nodes`).  An update finds
its row by id and keeps the id, so everything that is proved about a row asks what the `SET` clause
of a statement does to it (`Stmt.update`); whatever else the clause of the `WHERE` says is a guard.
-/

namespace Enrollment

open Relational Interleaving

/-- The update a statement is: where it writes, and what it stores. -/
def Stmt.update (authority : Bool) :
    (q : Stmt) → q.Answer → Option ((NodeRow → Bool) × (NodeRow → NodeRow))
  | .rotate e existing, _ =>
    some (e.rotatesWhere authority existing, fun r =>
      nodesAdvanceLivenessRevision r (e.rotated existing r))
  | .registerDirect existing message now, _ =>
    some (fun r => r.id == existing.id, fun r =>
      nodesAdvanceLivenessRevision r (registeredDirect existing message now r))
  | .registerBroker id message, _ => some (fun r => r.id == id, registeredBroker message)
  | .refreshAggregate id name machineId provenLiveAt, (sum : Aggregate) =>
    some (fun r => r.id == id, fun r =>
      nodesAdvanceLivenessRevision r (refreshed name machineId provenLiveAt sum r))
  | .heartbeatDirect id name now, _ =>
    some (fun r => r.id == id, fun r =>
      nodesAdvanceLivenessRevision r (heartbeatenDirect name now r))
  | .markOffline id now, _ =>
    some (fun r => r.id == id, fun r => nodesAdvanceLivenessRevision r (markedOffline now r))
  | _, _ => none

/-- The row a statement inserts. -/
def Stmt.inserts : (q : Stmt) → q.Answer → Option NodeRow
  | .insert e, (generatedId : NodeId) => some (e.inserted generatedId)
  | _, _ => none

/-- The node an update looks for. -/
def Stmt.target : Stmt → Option NodeId
  | .rotate _ existing | .registerDirect existing _ _ => some existing.id
  | .registerBroker id _ | .refreshAggregate id _ _ _ | .heartbeatDirect id _ _ => some id
  | .markOffline id _ => some id
  | _ => none

/-- The row a write has returned. -/
def WriteOutcome.row : WriteOutcome → Option NodeRow
  | .wrote row => some row
  | .missed | .violated => none

/-- The row a statement has returned, if it has written. -/
def Stmt.written : (q : Stmt) → q.Reply → Option NodeRow
  | .rotate .., (outcome : WriteOutcome) | .insert _, (outcome : WriteOutcome) => outcome.row
  | .registerDirect .., (outcome : WriteOutcome) => outcome.row
  | .registerBroker .., (outcome : WriteOutcome) => outcome.row
  | .refreshAggregate .., (outcome : WriteOutcome) => outcome.row
  | .heartbeatDirect .., (outcome : WriteOutcome) => outcome.row
  | .markOffline .., (outcome : WriteOutcome) => outcome.row
  | _, _ => none

/-- Has the statement written the row of this id? -/
def Stmt.wrote (q : Stmt) (reply : q.Reply) (id : NodeId) : Bool :=
  (q.written reply).any fun row => row.id == id

lemma Stmt.wrote_of_written {q : Stmt} {reply : q.Reply} {row : NodeRow} {id : NodeId}
    (h : q.written reply = some row) (hid : row.id = id) : q.wrote reply id = true := by
  rw [wrote, h, Option.any_some, hid, beq_self_eq_true]

/-! ## Lookups -/

lemma Store.mem_of_node? {s : Store} {p : NodeRow → Bool} {r : NodeRow} (h : s.node? p = some r) :
    r ∈ s.nodes ∧ p r = true := ⟨List.mem_of_find?_eq_some h, List.find?_some h⟩

lemma Store.mem_of_someNode {s : Store} {p : NodeRow → Bool} {choice : ℕ} {r : NodeRow}
    (h : s.someNode p choice = some r) : r ∈ s.nodes ∧ p r = true :=
  Table.mem_select.mp (List.mem_of_getElem? h)

/-- An id is that of one row. -/
lemma eq_of_id {T : Table NodeRow} {r r' : NodeRow} (hr : r ∈ T) (hr' : r' ∈ T)
    (h : r.id = r'.id) : r = r' := Table.eq_of_clash hr hr' (by simp [clash, key, h])

/-- A token digest is that of one row. -/
lemma eq_of_tokenHash {T : Table NodeRow} {r r' : NodeRow} (hr : r ∈ T) (hr' : r' ∈ T)
    (h : r.tokenHash = r'.tokenHash) : r = r' := Table.eq_of_clash hr hr' (by simp [clash, key, h])

/-! ## Updates -/

@[simp] lemma nodesAdvanceLivenessRevision_id (old new : NodeRow) :
    (nodesAdvanceLivenessRevision old new).id = new.id := by
  unfold nodesAdvanceLivenessRevision
  split <;> rfl

@[simp] lemma nodesAdvanceLivenessRevision_tokenHash (old new : NodeRow) :
    (nodesAdvanceLivenessRevision old new).tokenHash = new.tokenHash := by
  unfold nodesAdvanceLivenessRevision
  split <;> rfl

@[simp] lemma nodesAdvanceLivenessRevision_tags (old new : NodeRow) :
    (nodesAdvanceLivenessRevision old new).tags = new.tags := by
  unfold nodesAdvanceLivenessRevision
  split <;> rfl

lemma Stmt.update_target {authority : Bool} {q : Stmt} {a : q.Answer} {p : NodeRow → Bool}
    {f : NodeRow → NodeRow} (h : q.update authority a = some (p, f)) {r : NodeRow}
    (hp : p r = true) : q.target = some r.id := by
  cases q with
  | rotate e existing =>
    obtain ⟨rfl, rfl⟩ := Prod.mk.inj (Option.some.inj h)
    simp only [Attempt.rotatesWhere, Bool.and_eq_true, beq_iff_eq] at hp
    rw [target, hp.1.1]
  | registerDirect | registerBroker | refreshAggregate | heartbeatDirect | markOffline =>
    obtain ⟨rfl, rfl⟩ := Prod.mk.inj (Option.some.inj h)
    rw [target, beq_iff_eq.mp hp]
  | _ => simp [update] at h

lemma Stmt.update_id {authority : Bool} {q : Stmt} {a : q.Answer} {p : NodeRow → Bool}
    {f : NodeRow → NodeRow} (h : q.update authority a = some (p, f)) (r : NodeRow) :
    (f r).id = r.id := by
  cases q with
  | rotate | registerDirect | registerBroker | refreshAggregate | heartbeatDirect | markOffline =>
    obtain ⟨rfl, rfl⟩ := Prod.mk.inj (Option.some.inj h)
    simp [Attempt.rotated, registeredDirect, registeredBroker, refreshed, heartbeatenDirect,
      markedOffline]
  | _ => simp [update] at h

/-- What an update leaves: it has missed, or been refused, or it hit a row. -/
lemma Store.updateNode_cases (s : Store) (p : NodeRow → Bool) (set stored : NodeRow → NodeRow) :
    ((s.updateNode p set stored).1 = .missed ∧ (s.updateNode p set stored).2 = s) ∨
    ((s.updateNode p set stored).1 = .violated ∧ (s.updateNode p set stored).2 = s) ∨
    ∃ row nodes, row ∈ s.nodes ∧ p row = true ∧ s.nodes.updateChecked p stored = some nodes ∧
      (s.updateNode p set stored).1 = .wrote (set row) ∧
      (s.updateNode p set stored).2 = { s with nodes := nodes } := by
  unfold updateNode
  cases hrow : s.node? p with
  | none => exact .inl ⟨rfl, rfl⟩
  | some row =>
    cases hnodes : s.nodes.updateChecked p stored with
    | none => exact .inr (.inl ⟨rfl, rfl⟩)
    | some nodes =>
      obtain ⟨hmem, hp⟩ := mem_of_node? hrow
      exact .inr (.inr ⟨row, nodes, hmem, hp, rfl, rfl, rfl⟩)

/-- What an insert leaves. -/
lemma Store.insertNode_cases (s : Store) (row : NodeRow) :
    ((s.insertNode row).1 = .violated ∧ (s.insertNode row).2 = s) ∨
    ∃ h : s.nodes.conflicts row = false, (s.insertNode row).1 = .wrote row ∧
      (s.insertNode row).2 = { s with nodes := s.nodes.insert row h } := by
  unfold insertNode
  by_cases h : s.nodes.conflicts row = false
  · exact .inr ⟨h, by rw [dif_pos h], by rw [dif_pos h]⟩
  · exact .inl (by rw [dif_neg h]; exact ⟨rfl, rfl⟩)

section Run

variable (C : Crypto) (authority : Bool)

/-- What one statement does to the nodes: nothing, an update of the row it has found, or an
insert. -/
inductive NodesStep (q : Stmt) (a : q.Answer) (s : Store) (reply : q.Reply) (s' : Store) : Prop
  | same (hwritten : q.written reply = none) (hnodes : s'.nodes = s.nodes)
  | updated (p : NodeRow → Bool) (f : NodeRow → NodeRow) (row ret : NodeRow) (nodes : Table NodeRow)
      (hupdate : q.update authority a = some (p, f)) (hrow : row ∈ s.nodes) (hp : p row = true)
      (hnodes : s.nodes.updateChecked p f = some nodes) (hnodes' : s'.nodes = nodes)
      (hwritten : q.written reply = some ret) (hid : ret.id = row.id)
      (htoken : ret.tokenHash = (f row).tokenHash)
  | inserted (row : NodeRow) (hinserts : q.inserts a = some row)
      (hfree : s.nodes.conflicts row = false) (hnodes : s'.nodes = s.nodes.insert row hfree)
      (hwritten : q.written reply = some row)

variable {authority} in
/-- An update, by what it looks for and what it stores. -/
lemma NodesStep.of_updateNode {q : Stmt} {a : q.Answer} {s : Store} {p : NodeRow → Bool}
    {set stored : NodeRow → NodeRow} (reply : WriteOutcome → q.Reply)
    (hreply : ∀ outcome, q.written (reply outcome) = outcome.row)
    (hupdate : q.update authority a = some (p, stored)) (hid : ∀ r, (set r).id = r.id)
    (htoken : ∀ r, (set r).tokenHash = (stored r).tokenHash) :
    NodesStep authority q a s (reply (s.updateNode p set stored).1)
      (s.updateNode p set stored).2 := by
  rcases s.updateNode_cases p set stored with ⟨hout, hs⟩ | ⟨hout, hs⟩ |
    ⟨row, nodes, hrow, hp, hnodes, hout, hs⟩
  · exact .same (by rw [hout, hreply]; rfl) (by rw [hs])
  · exact .same (by rw [hout, hreply]; rfl) (by rw [hs])
  · exact .updated p stored row (set row) nodes hupdate hrow hp hnodes (by rw [hs])
      (by rw [hout, hreply]; rfl) (hid row) (htoken row)

/-- **What one statement does to the nodes.** -/
theorem run_nodes (q : Stmt) (a : q.Answer) (s : Store) :
    NodesStep authority q a s (run C authority q a s).1 (run C authority q a s).2 := by
  cases q with
  | insert e =>
    change NodesStep authority (.insert e) a s (s.insertNode (e.inserted a)).1
      (s.insertNode (e.inserted a)).2
    rcases s.insertNode_cases (e.inserted a) with ⟨hreply, hs⟩ | ⟨hfree, hreply, hs⟩
    · exact .same (by rw [hreply]; rfl) (by rw [hs])
    · exact .inserted _ rfl hfree (by rw [hs]) (by rw [hreply]; rfl)
  | rotate e existing =>
    exact .of_updateNode (q := .rotate e existing) (a := a) (s := s) (fun outcome => outcome)
      (fun _ => rfl) rfl (fun _ => rfl) fun _ => by simp
  | registerDirect existing message now =>
    exact .of_updateNode (q := .registerDirect existing message now) (a := a) (s := s)
      (fun outcome => outcome) (fun _ => rfl) rfl (fun _ => rfl) fun _ => by simp
  | registerBroker id message =>
    exact .of_updateNode (q := .registerBroker id message) (a := a) (s := s)
      (fun outcome => outcome) (fun _ => rfl) rfl (fun _ => rfl) fun _ => rfl
  | refreshAggregate id name machineId provenLiveAt =>
    exact .of_updateNode (q := .refreshAggregate id name machineId provenLiveAt) (a := a) (s := s)
      (fun outcome => outcome) (fun _ => rfl) rfl (fun _ => rfl) fun _ => by simp
  | heartbeatDirect id name now =>
    exact .of_updateNode (q := .heartbeatDirect id name now) (a := a) (s := s)
      (fun outcome => outcome) (fun _ => rfl) rfl (fun _ => rfl) fun _ => by simp
  | markOffline id now =>
    exact .of_updateNode (q := .markOffline id now) (a := a) (s := s) (fun outcome => outcome)
      (fun _ => rfl) rfl (fun _ => rfl) fun _ => by simp
  | _ => exact .same rfl rfl

variable {C authority} {q : Stmt} {a : q.Answer} {s : Store}

/-- **A row after a statement**: it was there and the statement has not written it, or the
statement has made it from the row of its id or inserted it. -/
lemma mem_run {r' : NodeRow} (hr' : r' ∈ (run C authority q a s).2.nodes) :
    (q.wrote (run C authority q a s).1 r'.id = false ∧ r' ∈ s.nodes) ∨
    ((∃ row, q.written (run C authority q a s).1 = some row ∧ row.id = r'.id ∧
        row.tokenHash = r'.tokenHash) ∧
      ((∃ r ∈ s.nodes, ∃ p f, q.update authority a = some (p, f) ∧ p r = true ∧ r' = f r) ∨
        (q.inserts a = some r' ∧ s.nodes.conflicts r' = false))) := by
  cases run_nodes C authority q a s with
  | same hwritten hnodes =>
    refine .inl ⟨?_, hnodes ▸ hr'⟩
    rw [Stmt.wrote, hwritten, Option.any_none]
  | updated p f row ret nodes hupdate hrow hp hnodes hnodes' hwritten hid htoken =>
    rw [hnodes'] at hr'
    obtain ⟨r, hr, rfl⟩ := (Table.mem_updateChecked hnodes).mp hr'
    by_cases hpr : p r = true
    · rw [if_pos hpr]
      obtain rfl : r = row := by
        refine eq_of_id hr hrow (Option.some.inj ?_)
        rw [← Stmt.update_target hupdate hpr, ← Stmt.update_target hupdate hp]
      refine .inr ⟨⟨ret, hwritten, ?_, htoken⟩, .inl ⟨r, hr, p, f, hupdate, hp, rfl⟩⟩
      rw [hid, Stmt.update_id hupdate]
    · rw [if_neg hpr]
      refine .inl ⟨?_, hr⟩
      rw [Stmt.wrote, hwritten, Option.any_some, hid, beq_eq_false_iff_ne]
      intro hsame
      exact hpr (eq_of_id hrow hr hsame ▸ hp)
  | inserted row hinserts hfree hnodes hwritten =>
    rw [hnodes] at hr'
    rcases List.mem_append.mp hr' with hold | hnew
    · refine .inl ⟨?_, hold⟩
      rw [Stmt.wrote, hwritten, Option.any_some, beq_eq_false_iff_ne]
      intro hsame
      have hclash := List.any_eq_false.mp hfree r' hold
      simp [clash, key, hsame] at hclash
    · obtain rfl : r' = row := by simpa using hnew
      exact .inr ⟨⟨r', hwritten, rfl, rfl⟩, .inr ⟨hinserts, hfree⟩⟩

/-- A row is never deleted: it is still there, or what the statement has made of it is. -/
lemma exists_mem_run {r : NodeRow} (hr : r ∈ s.nodes) :
    ∃ r' ∈ (run C authority q a s).2.nodes, r'.id = r.id ∧
      (r' = r ∨ ∃ p f, q.update authority a = some (p, f) ∧ p r = true ∧ r' = f r) := by
  cases run_nodes C authority q a s with
  | same _ hnodes => exact ⟨r, hnodes ▸ hr, rfl, .inl rfl⟩
  | updated p f row ret nodes hupdate hrow hp hnodes hnodes' =>
    by_cases hpr : p r = true
    · refine ⟨f r, ?_, Stmt.update_id hupdate r, .inr ⟨p, f, hupdate, hpr, rfl⟩⟩
      rw [hnodes']
      exact (Table.mem_updateChecked hnodes).mpr ⟨r, hr, by rw [if_pos hpr]⟩
    · refine ⟨r, ?_, rfl, .inl rfl⟩
      rw [hnodes']
      exact (Table.mem_updateChecked hnodes).mpr ⟨r, hr, by rw [if_neg hpr]⟩
  | inserted row _ hfree hnodes => exact ⟨r, hnodes ▸ List.mem_append_left _ hr, rfl, .inl rfl⟩

end Run

end Enrollment
