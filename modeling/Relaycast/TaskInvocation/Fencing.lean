import Relaycast.TaskInvocation.Execution

/-!
# Task execution fencing

Every call reads the row, compares it, and then updates it under a guard.  What makes the update
safe is that a row which passes the guard is the row the call has read: nothing leads back to a
waiting row, and nothing happens to a running row but its end.  So the task state an update writes
is built from the current one, each statement is a step of `Row.Step`, and what the calls promise
is read off the steps.
-/

namespace TaskInvocation

open Relational Interleaving Script

/-! ## What is recorded -/

/-- The invocation an accept has just accepted. -/
def Stmt.accepted : (q : Stmt) → q.Reply → Option InvocationId
  | .accept _, row => row.map (·.id)
  | _, _ => none

/-- The invocation a final result has just been committed to. -/
def Stmt.committed : (q : Stmt) → q.Reply → Option InvocationId
  | .complete _, row => row.map (·.id)
  | _, _ => none

/-- Did the statement accept the invocation? -/
def accepts (id : InvocationId) (e : Event lang Store) : Bool :=
  Stmt.accepted e.stmt e.reply == some id

/-- Did the statement commit a final result to the invocation? -/
def commits (id : InvocationId) (e : Event lang Store) : Bool :=
  Stmt.committed e.stmt e.reply == some id

/-- A mark is made at most once for an invocation, and what it leaves its row in is kept. -/
structure Once (mark : InvocationId → Event lang Store → Bool) (P : Row → Prop)
    (w : World lang Store) : Prop where
  once : ∀ id, (w.trace.filter (mark id)).length ≤ 1
  held : ∀ id, ∀ e ∈ w.trace, mark id e = true → ∀ r ∈ w.store.invocations, r.id = id → P r

lemma Once.after {mark : InvocationId → Event lang Store → Bool} {P : Row → Prop}
    {w : World lang Store} (h : Once mark P w) {i : ℕ} {q : Stmt} {a : q.Answer}
    (hmono : ∀ r r', Row.Step r r' → P r → P r')
    (hstep : StoreStep w.store (run q a w.store).2)
    (hnew : ∀ id, mark id (w.event machine i q a) = true →
      (∃ r ∈ w.store.invocations, r.id = id ∧ ¬ P r) ∧
        ∃ r ∈ (run q a w.store).2.invocations, r.id = id ∧ P r) :
    Once mark P (w.after machine i q a) := by
  refine ⟨fun id => ?_, fun id e he hmark r' hr' hid => ?_⟩
  · rw [World.after_trace, List.filter_cons]
    split_ifs with hmark
    · obtain ⟨⟨r, hr, hid, hP⟩, -⟩ := hnew id hmark
      have hnone : w.trace.filter (mark id) = [] := by
        rw [List.filter_eq_nil_iff]
        exact fun e he hmark' => hP (h.held id e he hmark' r hr hid)
      simp [hnone]
    · exact h.once id
  · rcases List.mem_cons.mp he with rfl | he
    · obtain ⟨-, r, hr, hrid, hP⟩ := hnew id hmark
      rwa [Store.row_ext hr' hr (hid.trans hrid.symm)]
    · obtain ⟨r, hr, hrow⟩ := hstep.back r' hr'
      exact hmono r r' hrow (h.held id e he hmark r hr (hrow.id_eq.symm.trans hid))

/-- An update that returned a row hit it. -/
lemma mem_updateOne {s : Store} {p : Row → Bool} {f : Row → Row} {hf : ∀ r, (f r).id = r.id}
    {row : Row} (h : (s.updateOne p f hf).1 = some row) :
    ∃ r ∈ s.invocations, p r = true ∧ f r = row ∧ row ∈ (s.updateOne p f hf).2.invocations := by
  obtain ⟨r, hr, hp, rfl⟩ := mem_returning_head h
  refine ⟨r, hr, hp, rfl, ?_⟩
  have hmem : f r ∈ s.invocations.update p f hf :=
    Table.mem_update.mpr ⟨r, hr, by rw [if_pos hp]⟩
  exact hmem

lemma accepted_run {s : Store} (hs : s.WellFormed) {q : Stmt} {a : q.Answer} {id : InvocationId}
    (h : q.accepted (run q a s).1 = some id) :
    (∃ r ∈ s.invocations, r.id = id ∧ ¬ r.isAccepted = true) ∧
      ∃ r ∈ (run q a s).2.invocations, r.id = id ∧ r.isAccepted = true := by
  cases q with
  | newDate | read | expire | complete | expireAll => cases h
  | accept w =>
    obtain ⟨row, hrow, rfl⟩ := Option.map_eq_some_iff.mp h
    obtain ⟨r, hr, hp, rfl, hmem⟩ := mem_updateOne hrow
    obtain ⟨-, -, -, -, task, hstate, hgen, -⟩ := AcceptWrite.hits_iff.mp hp
    refine ⟨⟨r, hr, rfl, fun haccepted => ?_⟩, _, hmem, rfl, rfl⟩
    obtain ⟨task', hstate', hat⟩ := Row.isAccepted_iff.mp haccepted
    obtain rfl : task = task' := Option.some.inj (hstate.symm.trans hstate')
    have := (hs r hr task hstate).generation
    simp [hgen, hat] at this

lemma committed_run {s : Store} {q : Stmt} {a : q.Answer} {id : InvocationId}
    (h : q.committed (run q a s).1 = some id) :
    (∃ r ∈ s.invocations, r.id = id ∧ ¬ r.status.isLive = false) ∧
      ∃ r ∈ (run q a s).2.invocations, r.id = id ∧ r.status.isLive = false := by
  cases q with
  | newDate | read | expire | accept | expireAll => cases h
  | complete w =>
    obtain ⟨row, hrow, rfl⟩ := Option.map_eq_some_iff.mp h
    obtain ⟨r, hr, hp, rfl, hmem⟩ := mem_updateOne hrow
    obtain ⟨-, -, hstatus, -⟩ := CompleteWrite.hits_iff.mp hp
    exact ⟨⟨r, hr, rfl, by simp [hstatus, Status.isLive]⟩, _, hmem, rfl,
      w.message.status_not_live⟩

/-- What every statement keeps. -/
structure Fenced (w : World lang Store) : Prop where
  wellFormed : w.store.WellFormed
  ran : ∀ e ∈ w.trace, e.after = (run e.stmt e.answer e.before).2
  steps : ∀ e ∈ w.trace, e.before.WellFormed ∧ StoreStep e.before e.after
  accepted : Once accepts (fun r => r.isAccepted = true) w
  committed : Once commits (fun r => r.status.isLive = false) w

lemma Fenced.after {w : World lang Store} (h : Fenced w) {i : ℕ} {q : Stmt} {a : q.Answer}
    (hq : q.BuiltFrom w.store) : Fenced (w.after machine i q a) := by
  have hstep := storeStep_run h.wellFormed q a hq
  refine
    { wellFormed := hstep.wellFormed h.wellFormed
      ran := fun e he => ?_
      steps := fun e he => ?_
      accepted := h.accepted.after (fun r r' hrow => hrow.isAccepted_mono) hstep fun id hmark =>
        accepted_run h.wellFormed (beq_iff_eq.mp hmark)
      committed := h.committed.after (fun r r' hrow hP => ?_) hstep fun id hmark =>
        committed_run (beq_iff_eq.mp hmark) }
  · rcases List.mem_cons.mp he with rfl | he
    · rfl
    · exact h.ran e he
  · rcases List.mem_cons.mp he with rfl | he
    · exact ⟨h.wellFormed, hstep⟩
    · exact h.steps e he
  · rw [hrow.eq_of_terminal hP]
    exact hP

/-- Every row of the one table is a row of the other, some steps later. -/
def StoreLater (s s' : Store) : Prop :=
  ∀ r ∈ s.invocations, ∃ r' ∈ s'.invocations, Row.Later r r'

lemma StoreLater.refl (s : Store) : StoreLater s s := fun r hr => ⟨r, hr, .refl⟩

lemma StoreLater.trans {s₁ s₂ s₃ : Store} (h : StoreLater s₁ s₂) (h' : StoreLater s₂ s₃) :
    StoreLater s₁ s₃ := by
  intro r hr
  obtain ⟨r', hr', hlater⟩ := h r hr
  obtain ⟨r'', hr'', hlater'⟩ := h' r' hr'
  exact ⟨r'', hr'', Relation.ReflTransGen.trans hlater hlater'⟩

/-- The invariant, and the table that only moves on. -/
def shared : Shared lang Store where
  inv := Fenced
  grows w w' := StoreLater w.store w'.store
  refl w := StoreLater.refl w.store
  trans _ _ _ := StoreLater.trans

/-- A statement that was built from the row it hits keeps what is shared. -/
lemma kept {w : World lang Store} (hw : Fenced w) {i : ℕ} {q : Stmt} {a : q.Answer}
    (hq : q.BuiltFrom w.store) :
    shared.inv (w.after machine i q a) ∧ shared.grows w (w.after machine i q a) := by
  refine ⟨hw.after hq, fun r hr => ?_⟩
  obtain ⟨r', hr', hrow⟩ := (storeStep_run hw.wellFormed q a hq).forth r hr
  exact ⟨r', hr', .single hrow⟩

/-! ## Rows that were read -/

/-- A row that was in the table at some time. -/
structure Seen (r : Row) (s : Store) : Prop where
  wellFormed : ∀ task, r.taskState = some task → r.WellFormed task
  later : ∃ r' ∈ s.invocations, Row.Later r r'

namespace Seen

variable {r r' : Row} {s s' : Store}

lemma of_mem (hs : s.WellFormed) (hr : r ∈ s.invocations) : Seen r s := ⟨hs r hr, r, hr, .refl⟩

lemma mono (h : Seen r s) (hs : StoreLater s s') : Seen r s' := by
  obtain ⟨r', hr', hlater⟩ := h.later
  obtain ⟨r'', hr'', hlater'⟩ := hs r' hr'
  exact ⟨h.wellFormed, r'', hr'', Relation.ReflTransGen.trans hlater hlater'⟩

/-- The row of that id is a later one. -/
lemma later_of_mem (h : Seen r s) (hr' : r' ∈ s.invocations) (hid : r'.id = r.id) :
    Row.Later r r' := by
  obtain ⟨r'', hr'', hlater⟩ := h.later
  rwa [Store.row_ext hr' hr'' (hid.trans hlater.id_eq.symm)]

/-- A terminal row is still there. -/
lemma mem_of_terminal (h : Seen r s) (hr : r.status.isLive = false) : r ∈ s.invocations := by
  obtain ⟨r', hr', hlater⟩ := h.later
  rwa [← hlater.eq_of_terminal hr]

end Seen

lemma mem_read {s : Store} {workspaceId : WorkspaceId} {id : InvocationId} {row : Row}
    (h : some row = (run (.read workspaceId id) () s).1) : row ∈ s.invocations ∧ row.id = id := by
  have hmem := List.mem_of_mem_head? h.symm
  rw [Table.mem_select, Bool.and_eq_true] at hmem
  exact ⟨hmem.1, by simpa using hmem.2.2⟩

lemma ownedAndFenced_ok {found : Option Row} {nodeId provider executionId generation : String}
    {row : Row} (h : ownedAndFenced found nodeId provider executionId generation = .ok row) :
    found = some row := by
  unfold ownedAndFenced at h
  cases found with
  | none => cases h
  | some row' =>
    dsimp only at h
    split at h
    · cases h
    · split_ifs at h
      rw [Except.ok.inj h]

section
variable {w : World lang Store} {i : ℕ} {permits : World lang Store → ℕ → Stmt → Prop}

/-- The row an expiry hands back was in the table when it did. -/
lemma expireOverdue_safe (row : Row) :
    shared.Safe machine permits i (fun current w' => ∀ row', current = some row' →
      Seen row' w'.store ∧ row'.id = row.id) (expireOverdue row) w := by
  unfold expireOverdue
  refine Shared.Safe.ask fun w₁ _ _ hinv _ _ => ⟨kept hinv trivial, fun completedAt _ => ?_⟩
  refine Shared.Safe.ask fun w₂ _ _ hinv _ _ => ⟨kept hinv trivial, fun now _ => ?_⟩
  refine Shared.Safe.ask fun w₃ _ _ hinv _ a => ⟨kept hinv trivial, fun updated hupdated => ?_⟩
  cases updated with
  | some updated =>
    rintro row' ⟨rfl⟩
    obtain ⟨r, hr, hp, rfl, hmem⟩ := mem_updateOne hupdated.symm
    simp only [Bool.and_eq_true, beq_iff_eq] at hp
    exact ⟨.of_mem (hinv.after (q := .expire _ _ _ _) (a := a) (i := i) trivial).wellFormed hmem,
      hp.1.1.1⟩
  | none =>
    refine Shared.Safe.ask fun w₄ _ _ hinv _ _ => ⟨kept hinv trivial, fun fresh hfresh => ?_⟩
    rintro row' rfl
    obtain ⟨hmem, hid⟩ := mem_read hfresh
    exact ⟨.of_mem hinv.wellFormed hmem, hid⟩

lemma expireTaskInvocation_safe {row : Row} (hseen : Seen row w.store) :
    shared.Safe machine permits i (fun current w' => ∀ row', current = some row' →
      Seen row' w'.store ∧ row'.id = row.id) (expireTaskInvocation row) w := by
  unfold expireTaskInvocation
  split
  · rintro row' ⟨rfl⟩
    exact ⟨hseen, rfl⟩
  · refine Shared.Safe.ask fun w₁ _ hgrows hinv _ _ => ⟨kept hinv trivial, fun now _ => ?_⟩
    split_ifs
    · rintro row' ⟨rfl⟩
      exact ⟨hseen.mono hgrows, rfl⟩
    · exact expireOverdue_safe row

/-! ## Accepting -/

/-- What an accept promises: it says `newly_accepted` only if it was the one. -/
def Accepted (m : FleetActionAcceptMessage) (i : ℕ) : AcceptResult → World lang Store → Prop
  | .ok (_, true), w => ∃ e ∈ w.eventsOf i, accepts m.invocationId e = true
  | _, _ => True

lemma acceptDispatched_safe {workspaceId : WorkspaceId} {nodeId provider : String}
    {m : FleetActionAcceptMessage} {row : Row} {task : TaskState} (hseen : Seen row w.store)
    (hid : row.id = m.invocationId) (hstate : row.taskState = some task) :
    shared.Safe machine permits i (Accepted m i)
      (acceptDispatched workspaceId nodeId provider m row task) w := by
  unfold acceptDispatched
  refine Shared.Safe.ask fun w₁ _ hgrows₁ hinv _ _ => ⟨kept hinv trivial, fun acceptedAt _ => ?_⟩
  refine Shared.Safe.ask fun w₂ _ hgrows₂ hinv _ _ => ⟨kept hinv trivial, fun now _ => ?_⟩
  refine Shared.Safe.ask fun w₃ _ hgrows₃ hinv _ a => ⟨kept hinv ?_, fun accepted haccepted => ?_⟩
  · -- a dispatched row with the id of the row that was read is that row
    intro r hr hp
    obtain ⟨hrid, -, hstatus, -⟩ := AcceptWrite.hits_iff.mp hp
    have hlater := ((hseen.mono hgrows₁).mono hgrows₂ |>.mono hgrows₃).later_of_mem hr hrid
    rw [hlater.eq_of_waiting (.inr hstatus)]
    exact hstate
  cases accepted with
  | some accepted =>
    obtain ⟨r, hr, hp, hrow, -⟩ := mem_updateOne haccepted.symm
    refine ⟨_, World.event_mem_eventsOf _ _ _ _ _, ?_⟩
    have hid' : accepted.id = m.invocationId := by
      rw [← hrow]
      exact (AcceptWrite.hits_iff.mp hp).1.trans hid
    simp only [accepts, Stmt.accepted, World.event, beq_iff_eq, Option.map_eq_some_iff]
    exact ⟨accepted, haccepted.symm, hid'⟩
  | none =>
    refine Shared.Safe.ask fun w₄ _ _ hinv _ _ => ⟨kept hinv trivial, fun found _ => ?_⟩
    cases ownedAndFenced found nodeId provider m.executionId m.workerGeneration with
    | error e => trivial
    | ok row =>
      dsimp only
      split_ifs
      · trivial
      · trivial

lemma acceptTaskInvocation_safe (workspaceId : WorkspaceId) (nodeId provider : String)
    (m : FleetActionAcceptMessage) (w : World lang Store) :
    shared.Safe machine permits i (Accepted m i)
      (acceptTaskInvocation workspaceId nodeId provider m) w := by
  unfold acceptTaskInvocation
  refine Shared.Safe.ask fun w₁ _ _ hinv _ _ => ⟨kept hinv trivial, fun found hfound => ?_⟩
  cases hcheck : ownedAndFenced found nodeId provider m.executionId m.workerGeneration with
  | error e => trivial
  | ok row =>
    obtain rfl := ownedAndFenced_ok hcheck
    obtain ⟨hmem, hid⟩ := mem_read hfound
    refine Shared.Safe.then (expireTaskInvocation_safe (.of_mem hinv.wellFormed hmem))
      fun current w₂ hcurrent => ?_
    cases current with
    | none => trivial
    | some row' =>
      obtain ⟨hseen, hid'⟩ := hcurrent row' rfl
      dsimp only
      split_ifs
      · trivial
      · cases hstate : row'.taskState with
        | none => trivial
        | some task => exact acceptDispatched_safe hseen (hid'.trans hid) hstate

/-! ## Completing -/

/-- The row holds this result. -/
structure FleetActionResultMessage.IsResultOf (m : FleetActionResultMessage) (r : Row) : Prop where
  status : r.status = m.status
  output : r.output.Same m.outputOrNull
  error : r.error = m.error
  accounting : (accountingJson (r.taskState.bind (·.accounting))).Same (accountingJson m.accounting)

lemma isResultOf_iff {m : FleetActionResultMessage} {r : Row} :
    m.matchesRow r = true ↔ m.IsResultOf r := by
  simp only [FleetActionResultMessage.matchesRow, Bool.and_eq_true, beq_iff_eq,
    canonicalJson_eq_iff]
  constructor
  · rintro ⟨⟨⟨hstatus, houtput⟩, herror⟩, haccounting⟩
    exact ⟨hstatus, houtput, herror, haccounting⟩
  · rintro ⟨hstatus, houtput, herror, haccounting⟩
    exact ⟨⟨⟨hstatus, houtput⟩, herror⟩, haccounting⟩

lemma FleetActionResultMessage.IsResultOf.terminal {m : FleetActionResultMessage} {r : Row}
    (h : m.IsResultOf r) : r.status.isLive = false := by
  rw [h.status]
  exact m.status_not_live

/-- The receipt is that of the terminal row of the invocation, which holds this result. -/
def HasReceipt (m : FleetActionResultMessage) (c : Receipt) (s : Store) : Prop :=
  ∃ r ∈ s.invocations, r.id = m.invocationId ∧ c = receipt r ∧ m.IsResultOf r

/-- What a result promises: a final one that is answered gets the receipt of an equal result, and
one that says it completed the row was the one. -/
def Completed (m : FleetActionResultMessage) (i : ℕ) :
    CompletionResult → World lang Store → Prop
  | .ok (some c), w => (m.final = some true → HasReceipt m c.receipt w.store) ∧
      (c.completed.isSome = true → ∃ e ∈ w.eventsOf i, commits m.invocationId e = true)
  | _, _ => True

/-- The row that is read after the guard was missed answers the result if it holds it. -/
lemma completed_of_matchesRow {m : FleetActionResultMessage} {row : Row} (hmem : row ∈ w.store.invocations)
    (hid : row.id = m.invocationId) (h : m.matchesRow row = true) :
    Completed m i (.ok (some ⟨receipt row, none⟩)) w :=
  ⟨fun _ => ⟨row, hmem, hid, rfl, isResultOf_iff.mp h⟩, by simp⟩

lemma completeRunning_safe {workspaceId : WorkspaceId} {nodeId provider executionId : String}
    {generation : String} {m : FleetActionResultMessage} {row : Row} {task : TaskState}
    (hseen : Seen row w.store) (hid : row.id = m.invocationId)
    (hstate : row.taskState = some task) (hrunning : row.status = .running) :
    shared.Safe machine permits i (Completed m i)
      (completeRunning workspaceId nodeId provider executionId generation m row task) w := by
  unfold completeRunning
  refine Shared.Safe.ask fun w₁ _ hgrows₁ hinv _ _ => ⟨kept hinv trivial, fun completedAt _ => ?_⟩
  refine Shared.Safe.ask fun w₂ _ hgrows₂ hinv _ _ => ⟨kept hinv trivial, fun now _ => ?_⟩
  refine Shared.Safe.ask fun w₃ _ hgrows₃ hinv _ a => ⟨kept hinv ?_, fun completed hcompleted => ?_⟩
  · -- a running row with the id of the running row that was read is that row
    intro r hr hp
    obtain ⟨hrid, -, hstatus, -⟩ := CompleteWrite.hits_iff.mp hp
    have hlater := ((hseen.mono hgrows₁).mono hgrows₂ |>.mono hgrows₃).later_of_mem hr hrid
    rw [hlater.eq_of_running hrunning hstatus]
    exact hstate
  cases completed with
  | some completed =>
    obtain ⟨r, hr, hp, hrow, hmem⟩ := mem_updateOne hcompleted.symm
    have hid' : completed.id = m.invocationId := by
      rw [← hrow]
      exact (CompleteWrite.hits_iff.mp hp).1.trans hid
    refine ⟨fun _ => ⟨completed, hmem, hid', rfl, ?_⟩, fun _ => ?_⟩
    · have hnone := (hseen.wellFormed task hstate).accounting (by rw [hrunning]; rfl)
      subst hrow
      refine ⟨rfl, .refl _, rfl, ?_⟩
      simp only [CompleteWrite.apply, CompleteWrite.taskState, Option.bind_some, hnone]
      cases m.accounting <;> exact .refl _
    · refine ⟨_, World.event_mem_eventsOf _ _ _ _ _, ?_⟩
      simp only [commits, Stmt.committed, World.event, beq_iff_eq, Option.map_eq_some_iff]
      exact ⟨completed, hcompleted.symm, hid'⟩
  | none =>
    refine Shared.Safe.ask fun w₄ _ _ hinv _ _ => ⟨kept hinv trivial, fun found hfound => ?_⟩
    cases hcheck : ownedAndFenced found nodeId provider executionId generation with
    | error e => trivial
    | ok row' =>
      obtain rfl := ownedAndFenced_ok hcheck
      obtain ⟨hmem, hid'⟩ := mem_read hfound
      dsimp only
      split_ifs with hmatch
      · exact completed_of_matchesRow hmem (hid'.trans hid) hmatch
      · trivial

lemma completeCurrent_safe {workspaceId : WorkspaceId} {nodeId provider executionId : String}
    {generation : String} {final : Bool} {m : FleetActionResultMessage} {row : Row}
    {task : TaskState} (hfinal : m.final = some final) (hseen : Seen row w.store)
    (hid : row.id = m.invocationId) (hstate : row.taskState = some task) :
    shared.Safe machine permits i (Completed m i)
      (completeCurrent workspaceId nodeId provider executionId generation final m row task) w := by
  unfold completeCurrent
  split_ifs with haccepted hnotFinal hblank hterminal hmatch
  · trivial
  · refine ⟨fun htrue => ?_, by simp⟩
    rw [hfinal] at htrue
    simp [Option.some.inj htrue] at hnotFinal
  · trivial
  · trivial
  · have hlive : row.status.isLive = false := by
      rcases hterminal with h | h <;> rw [h] <;> rfl
    exact completed_of_matchesRow (hseen.mem_of_terminal hlive) hid (by simpa using hmatch)
  · refine completeRunning_safe hseen hid hstate ?_
    have hwaiting := (hseen.wellFormed task hstate).waiting
    cases hstatus : row.status <;> simp_all

lemma completeTaskInvocation_safe (workspaceId : WorkspaceId) (nodeId provider : String)
    (m : FleetActionResultMessage) (w : World lang Store) :
    shared.Safe machine permits i (Completed m i)
      (completeTaskInvocation workspaceId nodeId provider m) w := by
  unfold completeTaskInvocation
  refine Shared.Safe.ask fun w₁ _ _ hinv _ _ => ⟨kept hinv trivial, fun candidate hread => ?_⟩
  split_ifs
  · trivial
  · trivial
  split
  · next executionId generation final hexecution hgeneration hfinal =>
    split_ifs
    · trivial
    cases hcheck : ownedAndFenced candidate nodeId provider executionId generation with
    | error e => trivial
    | ok row =>
      obtain rfl := ownedAndFenced_ok hcheck
      obtain ⟨hmem, hid⟩ := mem_read hread
      refine Shared.Safe.then (expireTaskInvocation_safe (.of_mem hinv.wellFormed hmem))
        fun current w₂ hcurrent => ?_
      cases current with
      | none => trivial
      | some row' =>
        obtain ⟨hseen, hid'⟩ := hcurrent row' rfl
        cases hstate : row'.taskState with
        | none => simp only [hstate]; trivial
        | some task =>
          simp only [hstate]
          exact completeCurrent_safe hfinal hseen (hid'.trans hid) hstate
  · trivial

end

/-! ## Every run -/

/-- What each call promises. -/
def Promised : (c : Call) → ℕ → c.Result → World lang Store → Prop
  | .acceptTaskInvocation _ _ _ m, i, a, w => Accepted m i a w
  | .completeTaskInvocation _ _ _ m, i, a, w => Completed m i a w
  | _, _, _, _ => True

lemma body_safe (c : Call) (i : ℕ) (w : World lang Store) :
    shared.Safe machine (fun _ _ _ => True) i (Promised c i) c.body w := by
  cases c with
  | acceptTaskInvocation workspaceId nodeId provider m =>
    exact acceptTaskInvocation_safe workspaceId nodeId provider m w
  | completeTaskInvocation workspaceId nodeId provider m =>
    exact completeTaskInvocation_safe workspaceId nodeId provider m w
  | expireTaskInvocation row =>
    simp only [Call.body, expireTaskInvocation]
    split
    · trivial
    · refine Shared.Safe.ask fun w₁ _ _ hinv _ _ => ⟨kept hinv trivial, fun now _ => ?_⟩
      split_ifs
      · trivial
      · exact (expireOverdue_safe row).weaken fun _ _ _ => trivial
  | expireTaskInvocations =>
    simp only [Call.body, expireTaskInvocations]
    refine Shared.Safe.ask fun w₁ _ _ hinv _ _ => ⟨kept hinv trivial, fun completedAt _ => ?_⟩
    refine Shared.Safe.ask fun w₂ _ _ hinv _ _ => ⟨kept hinv trivial, fun now _ => ?_⟩
    exact Shared.Safe.ask fun w₃ _ _ hinv _ _ => ⟨kept hinv trivial, fun done _ => trivial⟩

/-- Any calls, any interleaving, any crashes. -/
abbrev anyRun : Regime lang Store Call := .free lang Store Call

lemma sound {g : Config lang Store Call.Result} (h : service.Reachable anyRun g) :
    Fenced g.world ∧ ∀ (i : ℕ) (c : Call) (a : c.Result),
      g.threads[i]? = some ⟨c, some (.done a)⟩ →
        ∃ w₀, g.world.eventsOf i = w₀.eventsOf i ∧ StoreLater w₀.store g.world.store ∧
          Promised c i a w₀ := by
  refine Shared.sound (S := service) (H := shared) (G := anyRun) (Q := Promised)
    (fun s hs => ?_) (fun d => d.elim) (fun d => d.elim)
    (fun c _ i w _ _ => body_safe c i w) h
  exact ⟨hs, by simp, by simp, ⟨by simp, by simp⟩, ⟨by simp, by simp⟩⟩

/-- Only a final result issues the update of a final result. -/
def Call.CanIssue (c : Call) : Stmt → Prop
  | .complete w => ∃ workspaceId nodeId provider,
      c = .completeTaskInvocation workspaceId nodeId provider w.message ∧
        w.message.final = some true
  | _ => True

lemma expireTaskInvocation_issues (c : Call) (row : Row) :
    (expireTaskInvocation row).Issues c.CanIssue := by
  unfold expireTaskInvocation expireOverdue
  split
  · trivial
  · refine Prog.issues_ask_bind trivial fun now => ?_
    split_ifs
    · trivial
    · refine Prog.issues_ask_bind trivial fun completedAt => ?_
      refine Prog.issues_ask_bind trivial fun now => ?_
      refine Prog.issues_ask_bind trivial fun updated => ?_
      cases updated with
      | some updated => trivial
      | none => exact Prog.issues_ask_bind trivial fun fresh => trivial

lemma acceptTaskInvocation_issues (c : Call) (workspaceId : WorkspaceId)
    (nodeId provider : String) (m : FleetActionAcceptMessage) :
    (acceptTaskInvocation workspaceId nodeId provider m).Issues c.CanIssue := by
  unfold acceptTaskInvocation
  refine Prog.issues_ask_bind trivial fun found => ?_
  cases ownedAndFenced found nodeId provider m.executionId m.workerGeneration with
  | error e => trivial
  | ok row =>
    refine (expireTaskInvocation_issues c row).bind fun current => ?_
    cases current with
    | none => trivial
    | some row' =>
      dsimp only
      split_ifs
      · trivial
      cases row'.taskState with
      | none => trivial
      | some task =>
        refine Prog.issues_ask_bind trivial fun acceptedAt => ?_
        refine Prog.issues_ask_bind trivial fun now => ?_
        refine Prog.issues_ask_bind trivial fun accepted => ?_
        cases accepted with
        | some accepted => trivial
        | none =>
          refine Prog.issues_ask_bind trivial fun found => ?_
          cases ownedAndFenced found nodeId provider m.executionId m.workerGeneration with
          | error e => trivial
          | ok row =>
            dsimp only
            split_ifs <;> trivial

lemma completeTaskInvocation_issues (workspaceId : WorkspaceId) (nodeId provider : String)
    (m : FleetActionResultMessage) :
    (completeTaskInvocation workspaceId nodeId provider m).Issues
      (Call.completeTaskInvocation workspaceId nodeId provider m).CanIssue := by
  unfold completeTaskInvocation
  refine Prog.issues_ask_bind trivial fun candidate => ?_
  split_ifs
  · trivial
  · trivial
  split
  · next executionId generation final hexecution hgeneration hfinal =>
    split_ifs
    · trivial
    cases ownedAndFenced candidate nodeId provider executionId generation with
    | error e => trivial
    | ok row =>
      refine (expireTaskInvocation_issues _ row).bind fun current => ?_
      cases current with
      | none => trivial
      | some row' =>
        dsimp only
        cases row'.taskState with
        | none => trivial
        | some task =>
          simp only [completeCurrent]
          split_ifs with haccepted hnotFinal
          · trivial
          · trivial
          · trivial
          · trivial
          · trivial
          · have hfinal' : m.final = some true := by
              rw [hfinal]
              simpa using hnotFinal
            refine Prog.issues_ask_bind trivial fun completedAt => ?_
            refine Prog.issues_ask_bind trivial fun now => ?_
            refine Prog.issues_ask_bind ⟨_, _, _, rfl, hfinal'⟩ fun completed => ?_
            cases completed with
            | some completed => trivial
            | none =>
              refine Prog.issues_ask_bind trivial fun found => ?_
              cases ownedAndFenced found nodeId provider executionId generation with
              | error e => trivial
              | ok row =>
                dsimp only
                split_ifs <;> trivial
  · trivial

lemma body_issues (c : Call) : c.body.Issues c.CanIssue := by
  cases c with
  | acceptTaskInvocation workspaceId nodeId provider m =>
    exact acceptTaskInvocation_issues _ workspaceId nodeId provider m
  | completeTaskInvocation workspaceId nodeId provider m =>
    exact completeTaskInvocation_issues workspaceId nodeId provider m
  | expireTaskInvocation row => exact expireTaskInvocation_issues _ row
  | expireTaskInvocations =>
    refine Prog.issues_ask_bind trivial fun completedAt => ?_
    refine Prog.issues_ask_bind trivial fun now => ?_
    exact Prog.issues_ask_bind trivial fun done => trivial

/-! ## What a run shows -/

/-- How one statement moves a row: its status goes from dispatched to running, from running to
completed or failed, or from live to failed once the deadline has passed. -/
def Row.Moves (r r' : Row) : Prop :=
  r'.status = r.status ∨
    (r.status = .dispatched ∧ r'.status = .running) ∨
    (r.status = .running ∧ (r'.status = .completed ∨ r'.status = .failed)) ∨
    (r.status.isLive = true ∧ r'.status = .failed ∧ r'.error = some "task_deadline_exceeded" ∧
      ∃ task now, r.taskState = some task ∧ task.deadline ≤ now)

/-- What a row keeps for good: an accepted execution, and everything once it is terminal. -/
structure Row.Keeps (r r' : Row) : Prop where
  execution : ∀ task, r.taskState = some task → task.acceptedAt.isSome = true →
    ∃ task', r'.taskState = some task' ∧ task'.executionId = task.executionId ∧
      task'.workerGeneration = task.workerGeneration
  terminal : r.status.isLive = false → r'.status = r.status ∧ r'.output = r.output ∧
    r'.error = r.error ∧ r'.taskState.bind (·.accounting) = r.taskState.bind (·.accounting)

/-- A final result that carries the accepted execution of the row made the statement. -/
def CompletedByOwner (g : Config lang Store Call.Result) (e : Event lang Store) (r : Row) : Prop :=
  ∃ t workspaceId nodeId provider m task, g.threads[e.caller]? = some t ∧
    t.call = .completeTaskInvocation workspaceId nodeId provider m ∧ m.final = some true ∧
    r.taskState = some task ∧ task.acceptedAt.isSome = true ∧
    m.executionId = task.executionId ∧ m.workerGeneration = task.workerGeneration

/-- Only the update of a final result completes a row. -/
lemma hits_of_completed {s : Store} {q : Stmt} {a : q.Answer} {r r' : Row}
    (hr : r ∈ s.invocations) (hr' : r' ∈ (run q a s).2.invocations) (hid : r'.id = r.id)
    (hstatus : r'.status = .completed) (hne : r.status ≠ .completed) :
    ∃ w, q = .complete w ∧ w.hits r = true := by
  have hcases : ∀ (p : Row → Bool) (f : Row → Row) (hf : ∀ r, (f r).id = r.id),
      r' ∈ s.invocations.update p f hf → p r = true ∧ f r = r' := by
    intro p f hf hmem
    rcases Table.mem_update_cases hmem with ⟨hold, -⟩ | ⟨r₀, hr₀, hp, rfl⟩
    · exact absurd hstatus (Store.row_ext hold hr hid ▸ hne)
    · obtain rfl : r₀ = r := Store.row_ext hr₀ hr ((hf r₀).symm.trans hid)
      exact ⟨hp, rfl⟩
  cases q with
  | newDate | read => exact absurd hstatus (Store.row_ext hr' hr hid ▸ hne)
  | expire | expireAll =>
    obtain ⟨-, rfl⟩ := hcases _ (Row.expired _) (fun _ => rfl) hr'
    cases hstatus
  | accept w =>
    obtain ⟨-, rfl⟩ := hcases w.hits w.apply (fun _ => rfl) hr'
    cases hstatus
  | complete w =>
    obtain ⟨hp, -⟩ := hcases w.hits w.apply (fun _ => rfl) hr'
    exact ⟨w, rfl, hp⟩

lemma completedByOwner {g : Config lang Store Call.Result} (h : service.Reachable anyRun g)
    {e : Event lang Store} (he : e ∈ g.world.trace) {r r' : Row} (hr : r ∈ e.before.invocations)
    (hr' : r' ∈ e.after.invocations) (hid : r'.id = r.id) (hstatus : r'.status = .completed)
    (hne : r.status ≠ .completed) : CompletedByOwner g e r := by
  obtain ⟨hfenced, -⟩ := sound h
  obtain ⟨hwf, -⟩ := hfenced.steps e he
  rw [hfenced.ran e he] at hr'
  obtain ⟨w, hstmt, hp⟩ := hits_of_completed hr hr' hid hstatus hne
  obtain ⟨t, ht, hissued⟩ :=
    System.caller_of_event (S := service) (P := Call.CanIssue) (fun c _ => body_issues c) h e he
  rw [hstmt] at hissued
  obtain ⟨workspaceId, nodeId, provider, hcall, hfinal⟩ := hissued
  obtain ⟨-, -, hrunning, -, task, executionId, generation, hstate, hexec, hexec', hgen, hgen', -⟩ :=
    CompleteWrite.hits_iff.mp hp
  exact ⟨t, workspaceId, nodeId, provider, w.message, task, ht, hcall, hfinal, hstate,
    (hwf r hr task hstate).started (.inl hrunning), hexec'.trans hexec.symm, hgen'.trans hgen.symm⟩

lemma Row.Later.keeps {r r' : Row} (h : Row.Later r r') : r.Keeps r' := by
  refine ⟨fun task hstate haccepted => ?_, fun hterminal => ?_⟩
  · obtain ⟨task', hstate', he, hg, -⟩ := h.acceptance hstate haccepted
    exact ⟨task', hstate', he, hg⟩
  · rw [h.eq_of_terminal hterminal]
    exact ⟨rfl, rfl, rfl, rfl⟩

/-- From one moment of a run to any later one the table only moves on. -/
lemma storeLater_of_run {g g' : Config lang Store Call.Result} (h : service.Reachable anyRun g)
    (hrun : Relation.ReflTransGen (service.Step anyRun) g g') :
    StoreLater g.world.store g'.world.store := by
  have hboth : service.Reachable anyRun g' ∧ StoreLater g.world.store g'.world.store := by
    induction hrun with
    | refl => exact ⟨h, StoreLater.refl _⟩
    | tail _ hst ih =>
      obtain ⟨hreach, hlater⟩ := ih
      have hreach' := hreach.step service anyRun hst
      refine ⟨hreach', ?_⟩
      cases hst with
      | start | crash => exact hlater
      | drift w ts d => exact d.elim
      | exec w ts i c q k a hi hq =>
        obtain ⟨-, hstep⟩ := (sound hreach').1.steps _ List.mem_cons_self
        refine hlater.trans fun r hr => ?_
        obtain ⟨r', hr', hrow⟩ := hstep.forth r hr
        exact ⟨r', hr', .single hrow⟩
  exact hboth.2

/-- Two marks of one invocation are one. -/
lemma Once.unique {mark : InvocationId → Event lang Store → Bool} {P : Row → Prop}
    {w : World lang Store} (h : Once mark P w) {id : InvocationId} {e e' : Event lang Store}
    (he : e ∈ w.trace) (he' : e' ∈ w.trace) (hmark : mark id e = true)
    (hmark' : mark id e' = true) : e = e' := by
  have hmem : e ∈ w.trace.filter (mark id) := List.mem_filter.mpr ⟨he, hmark⟩
  have hmem' : e' ∈ w.trace.filter (mark id) := List.mem_filter.mpr ⟨he', hmark'⟩
  have honce := h.once id
  generalize w.trace.filter (mark id) = marked at hmem hmem' honce
  cases marked with
  | nil => simp at hmem
  | cons x rest =>
    obtain rfl : rest = [] := List.eq_nil_of_length_eq_zero (by simpa using honce)
    rw [List.mem_singleton] at hmem hmem'
    exact hmem.trans hmem'.symm

/-- Call `i` is an accept of the invocation that has answered `newly_accepted`. -/
def NewlyAccepts (g : Config lang Store Call.Result) (id : InvocationId) (i : ℕ) : Prop :=
  ∃ workspaceId nodeId provider m c, m.invocationId = id ∧
    g.threads[i]? = some ⟨.acceptTaskInvocation workspaceId nodeId provider m,
      some (.done (.ok (c, true)))⟩

/-- Call `i` is a result `m` for the invocation that was answered, not refused. -/
def Answered (g : Config lang Store Call.Result) (m : FleetActionResultMessage) (i : ℕ)
    (c : CompleteResult) : Prop :=
  ∃ workspaceId nodeId provider,
    g.threads[i]? = some ⟨.completeTaskInvocation workspaceId nodeId provider m,
      some (.done (.ok (some c)))⟩

/-- Call `i` has answered that it completed the invocation. -/
def CompletesRow (g : Config lang Store Call.Result) (id : InvocationId) (i : ℕ) : Prop :=
  ∃ m c, Answered g m i c ∧ m.invocationId = id ∧ c.completed.isSome = true

/-- **Task executions are fenced.**  Of any calls on one invocation at most one answers
`newly_accepted`.  Every statement moves a row as a task moves, and completes it only for a final
result that carries the accepted execution.  An accepted execution is kept, and so is the outcome
of a terminal row.  At most one final result is committed, and every final result that is answered
gets the receipt of the terminal row, which holds an equal result. -/
theorem task_execution_fenced {g : Config lang Store Call.Result}
    (h : service.Reachable anyRun g) :
    (∀ id i j, NewlyAccepts g id i → NewlyAccepts g id j → i = j) ∧
    (∀ e ∈ g.world.trace, ∀ r ∈ e.before.invocations, ∃ r' ∈ e.after.invocations,
      r'.id = r.id ∧ r.Moves r' ∧
        (r'.status = .completed → r.status ≠ .completed → CompletedByOwner g e r)) ∧
    (∀ g', Relation.ReflTransGen (service.Step anyRun) g g' →
      ∀ r ∈ g.world.store.invocations, ∃ r' ∈ g'.world.store.invocations,
        r'.id = r.id ∧ r.Keeps r') ∧
    (∀ id, (g.world.trace.filter (commits id)).length ≤ 1) ∧
    (∀ id i j, CompletesRow g id i → CompletesRow g id j → i = j) ∧
    ∀ m i c, Answered g m i c → m.final = some true → HasReceipt m c.receipt g.world.store := by
  obtain ⟨hfenced, hpromised⟩ := sound h
  refine ⟨?_, fun e he r hr => ?_, fun g' hrun r hr => ?_, hfenced.committed.once, ?_, ?_⟩
  · rintro id i j ⟨_, _, _, m, c, rfl, hi⟩ ⟨_, _, _, m', c', hm, hj⟩
    obtain ⟨w, hown, -, e, he, hmark⟩ := hpromised i _ _ hi
    obtain ⟨w', hown', -, e', he', hmark'⟩ := hpromised j _ _ hj
    obtain ⟨hmem, rfl⟩ := World.mem_eventsOf.mp (hown ▸ he)
    obtain ⟨hmem', rfl⟩ := World.mem_eventsOf.mp (hown' ▸ he')
    rw [hfenced.accepted.unique hmem hmem' hmark (hm ▸ hmark')]
  · obtain ⟨r', hr', hrow⟩ := (hfenced.steps e he).2.forth r hr
    exact ⟨r', hr', hrow.id_eq, hrow.status_moves, completedByOwner h he hr hr' hrow.id_eq⟩
  · obtain ⟨r', hr', hlater⟩ := storeLater_of_run h hrun r hr
    exact ⟨r', hr', hlater.id_eq, hlater.keeps⟩
  · rintro id i j ⟨m, c, ⟨_, _, _, hi⟩, rfl, hc⟩ ⟨m', c', ⟨_, _, _, hj⟩, hm, hc'⟩
    obtain ⟨w, hown, -, -, hcommit⟩ := hpromised i _ _ hi
    obtain ⟨w', hown', -, -, hcommit'⟩ := hpromised j _ _ hj
    obtain ⟨e, he, hmark⟩ := hcommit hc
    obtain ⟨e', he', hmark'⟩ := hcommit' hc'
    obtain ⟨hmem, rfl⟩ := World.mem_eventsOf.mp (hown ▸ he)
    obtain ⟨hmem', rfl⟩ := World.mem_eventsOf.mp (hown' ▸ he')
    rw [hfenced.committed.unique hmem hmem' hmark (hm ▸ hmark')]
  · rintro m i c ⟨_, _, _, hi⟩ hfinal
    obtain ⟨w, -, hlater, hreceipt, -⟩ := hpromised i _ _ hi
    obtain ⟨r, hr, hid, hc, hresult⟩ := hreceipt hfinal
    obtain ⟨r', hr', hrow⟩ := hlater r hr
    rw [hrow.eq_of_terminal hresult.terminal] at hr'
    exact ⟨r, hr', hid, hc, hresult⟩

/-! ## A run on fixed inputs -/

/-- A dispatched row that waits for its provider. -/
def dispatchedRow : Row where
  workspaceId := "workspace"
  id := "invocation"
  actionName := "action"
  taskState := some ⟨"run", "step", "dispatch", 1000, 1000, none, none, none, none⟩
  output := .null
  error := none
  status := .dispatched
  dispatchedNodeId := some "node"
  dispatchedProvider := some "default"
  dispatchAttempts := 1
  completedAt := none

/-- The final result of its execution. -/
def finalResult : FleetActionResultMessage where
  id := some "request"
  invocationId := "invocation"
  executionId := some "invocation/1"
  workerGeneration := some "generation"
  final := some true
  accounting := none
  output := some (.str "done")
  error := none

/-- The clock stands still. -/
def atNoon : (q : Stmt) → q.Answer
  | .newDate => (500 : ℕ)
  | .read .. | .expire .. | .accept _ | .complete _ | .expireAll .. => ()

/-- An accept, its final result, and the result once more. -/
def duplicateResult : Config lang Store Call.Result :=
  service.runFrom ⟨Table.empty.insert dispatchedRow rfl⟩
    ([.start (.acceptTaskInvocation "workspace" "node" "default"
        ⟨"invocation", "invocation/1", "generation"⟩)] ++
      List.replicate 5 (.exec 0 atNoon) ++
      [.start (.completeTaskInvocation "workspace" "node" "default" finalResult)] ++
      List.replicate 5 (.exec 1 atNoon) ++
      [.start (.completeTaskInvocation "workspace" "node" "default" finalResult)] ++
      List.replicate 2 (.exec 2 atNoon))

/-- The result was committed once, and its duplicate gets the same receipt. -/
theorem task_execution_fenced_duplicate :
    (duplicateResult.world.trace.filter (commits "invocation")).length ≤ 1 ∧
      ∃ c, Answered duplicateResult finalResult 2 c ∧ c.completed = none ∧
        HasReceipt finalResult c.receipt duplicateResult.world.store := by
  have hinit : service.init ⟨Table.empty.insert dispatchedRow rfl⟩ := by
    intro r hr task hstate
    obtain rfl : r = dispatchedRow := List.mem_singleton.mp hr
    obtain rfl := Option.some.inj hstate
    exact ⟨rfl, rfl, fun _ => rfl, by simp [dispatchedRow], fun _ => rfl⟩
  have h := task_execution_fenced (service.runFrom_reachable hinit _ : service.Reachable anyRun
    duplicateResult)
  obtain ⟨-, -, -, honce, -, hanswered⟩ := h
  refine ⟨honce "invocation", ?_⟩
  have hreturned : Answered duplicateResult finalResult 2 ⟨⟨"invocation", "action", .completed,
      some ⟨"invocation/1", "run", "step", "dispatch", 1000, some "generation", some 500, none⟩,
      .str "done", none, some 500⟩, none⟩ := ⟨_, _, _, rfl⟩
  exact ⟨_, hreturned, rfl, hanswered _ _ _ hreturned rfl⟩

end TaskInvocation
