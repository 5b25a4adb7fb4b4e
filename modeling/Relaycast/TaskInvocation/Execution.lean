import Relaycast.TaskInvocation.Service

/-!
# What can happen to a task invocation

One statement does one of four things to a row: nothing, an acceptance, a final result, an expiry.
Everything a task invocation keeps follows from that list.
-/

namespace TaskInvocation

open Relational Interleaving Script

namespace Row

variable {r r' r'' : Row} {task : TaskState}

/-- Has an execution been accepted? -/
def isAccepted (r : Row) : Bool := r.taskState.any (·.acceptedAt.isSome)

lemma isAccepted_iff : r.isAccepted = true ↔
    ∃ task, r.taskState = some task ∧ task.acceptedAt.isSome = true := by
  cases hstate : r.taskState <;> simp [isAccepted, hstate]

/-- What one statement can do to a row. -/
inductive Step (r : Row) : Row → Prop
  | same : Step r r
  | accept (task : TaskState) (hstate : r.taskState = some task)
      (hstatus : r.status = .dispatched) (hfresh : task.acceptedAt = none)
      (executionId generation : String) (acceptedAt : Millis) :
      Step r { r with
        status := .running
        taskState := some { task with
          executionId := some executionId
          workerGeneration := some generation
          acceptedAt := some acceptedAt } }
  | complete (task : TaskState) (hstate : r.taskState = some task)
      (hstatus : r.status = .running) (status : Status) (hterminal : status.isLive = false)
      (output : Json) (error : Option String) (completedAt : Millis)
      (accounting : Option Accounting) :
      Step r { r with
        status := status
        output := output
        error := error
        completedAt := some completedAt
        taskState := some { task with accounting := accounting } }
  | expire (task : TaskState) (hstate : r.taskState = some task)
      (hlive : r.status.isLive = true) (completedAt now : Millis) (hdue : task.deadline ≤ now) :
      Step r (r.expired completedAt)

namespace Step

lemma id_eq (h : Step r r') : r'.id = r.id := by
  cases h <;> rfl

/-- A terminal row stays as it is. -/
lemma eq_of_terminal (h : Step r r') (hr : r.status.isLive = false) : r' = r := by
  cases h with
  | same => rfl
  | accept task hstate hstatus => simp [hstatus, Status.isLive] at hr
  | complete task hstate hstatus => simp [hstatus, Status.isLive] at hr
  | expire task hstate hlive => simp [hlive] at hr

/-- Nothing makes a row wait. -/
lemma eq_of_waiting (h : Step r r') (hr' : r'.status = .pending ∨ r'.status = .dispatched) :
    r' = r := by
  cases h with
  | same => rfl
  | accept => simp at hr'
  | complete task hstate hstatus status hterminal =>
    rcases hr' with hr' | hr' <;> simp only at hr' <;> subst hr' <;> cases hterminal
  | expire => simp [expired] at hr'

/-- A row that runs is changed by what ends it. -/
lemma eq_of_running (h : Step r r') (hr : r.status = .running) (hr' : r'.status = .running) :
    r' = r := by
  cases h with
  | same => rfl
  | accept task hstate hstatus => simp [hstatus] at hr
  | complete task hstate hstatus status hterminal =>
    simp only at hr'
    subst hr'
    cases hterminal
  | expire => simp [expired] at hr'

/-- An accepted execution is kept. -/
lemma acceptance (h : Step r r') (hstate : r.taskState = some task)
    (haccepted : task.acceptedAt.isSome = true) : ∃ task', r'.taskState = some task' ∧
      task'.executionId = task.executionId ∧ task'.workerGeneration = task.workerGeneration ∧
      task'.acceptedAt = task.acceptedAt := by
  cases h with
  | same => exact ⟨task, hstate, rfl, rfl, rfl⟩
  | accept task' hstate' hstatus hfresh =>
    obtain rfl : task = task' := Option.some.inj (hstate.symm.trans hstate')
    simp [hfresh] at haccepted
  | complete task' hstate' =>
    obtain rfl : task = task' := Option.some.inj (hstate.symm.trans hstate')
    exact ⟨_, rfl, rfl, rfl, rfl⟩
  | expire => exact ⟨task, hstate, rfl, rfl, rfl⟩

lemma isAccepted_mono (h : Step r r') (hr : r.isAccepted = true) : r'.isAccepted = true := by
  obtain ⟨task, hstate, haccepted⟩ := isAccepted_iff.mp hr
  obtain ⟨task', hstate', -, -, hsame⟩ := h.acceptance hstate haccepted
  exact isAccepted_iff.mpr ⟨task', hstate', hsame ▸ haccepted⟩

/-- The row stays well-formed. -/
lemma wellFormed (h : Step r r') (hr : ∀ task, r.taskState = some task → r.WellFormed task) :
    ∀ task, r'.taskState = some task → r'.WellFormed task := by
  intro task' hstate'
  cases h with
  | same => exact hr task' hstate'
  | accept task hstate hstatus =>
    have hwf := hr task hstate
    obtain rfl := Option.some.inj hstate'
    exact ⟨rfl, rfl, by simp, fun _ => rfl, fun _ => hwf.accounting (by rw [hstatus]; rfl)⟩
  | complete task hstate hstatus status hterminal =>
    have hwf := hr task hstate
    obtain rfl := Option.some.inj hstate'
    refine ⟨hwf.execution, hwf.generation, ?_, fun _ => hwf.started (.inl hstatus), ?_⟩
    · rintro (h | h) <;> simp only at h <;> subst h <;> cases hterminal
    · simp [hterminal]
  | expire task hstate =>
    have hwf := hr task' hstate'
    exact ⟨hwf.execution, hwf.generation, by simp [expired], by simp [expired],
      by simp [expired, Status.isLive]⟩

/-- How the status moves. -/
lemma status_moves (h : Step r r') : r'.status = r.status ∨
    (r.status = .dispatched ∧ r'.status = .running) ∨
    (r.status = .running ∧ (r'.status = .completed ∨ r'.status = .failed)) ∨
    (r.status.isLive = true ∧ r'.status = .failed ∧ r'.error = some "task_deadline_exceeded" ∧
      ∃ task now, r.taskState = some task ∧ task.deadline ≤ now) := by
  cases h with
  | same => exact .inl rfl
  | accept task hstate hstatus => exact .inr (.inl ⟨hstatus, rfl⟩)
  | complete task hstate hstatus status hterminal =>
    refine .inr (.inr (.inl ⟨hstatus, ?_⟩))
    cases status <;> simp_all [Status.isLive]
  | expire task hstate hlive completedAt now hdue =>
    exact .inr (.inr (.inr ⟨hlive, rfl, rfl, task, now, hstate, hdue⟩))

end Step

/-- What any number of statements can do to a row. -/
def Later : Row → Row → Prop := Relation.ReflTransGen Step

namespace Later

lemma id_eq (h : Later r r') : r'.id = r.id := by
  induction h with
  | refl => rfl
  | tail _ hstep ih => exact hstep.id_eq.trans ih

lemma eq_of_terminal (h : Later r r') (hr : r.status.isLive = false) : r' = r := by
  induction h with
  | refl => rfl
  | tail _ hstep ih =>
    subst ih
    exact hstep.eq_of_terminal hr

lemma eq_of_waiting (h : Later r r') (hr' : r'.status = .pending ∨ r'.status = .dispatched) :
    r' = r := by
  induction h with
  | refl => rfl
  | tail _ hstep ih =>
    obtain rfl := hstep.eq_of_waiting hr'
    exact ih hr'

lemma acceptance (h : Later r r') (hstate : r.taskState = some task)
    (haccepted : task.acceptedAt.isSome = true) : ∃ task', r'.taskState = some task' ∧
      task'.executionId = task.executionId ∧ task'.workerGeneration = task.workerGeneration ∧
      task'.acceptedAt = task.acceptedAt := by
  induction h with
  | refl => exact ⟨task, hstate, rfl, rfl, rfl⟩
  | tail _ hstep ih =>
    obtain ⟨task', hstate', he, hg, ha⟩ := ih
    obtain ⟨task'', hstate'', he', hg', ha'⟩ := hstep.acceptance hstate' (ha ▸ haccepted)
    exact ⟨task'', hstate'', he'.trans he, hg'.trans hg, ha'.trans ha⟩

/-- Between two moments in which a row runs nothing happened to it. -/
lemma eq_of_running (h : Later r r') (hr : r.status = .running) (hr' : r'.status = .running) :
    r' = r := by
  induction h with
  | refl => rfl
  | @tail r₁ r₂ _ hstep ih =>
    cases hlive : r₁.status.isLive with
    | false =>
      obtain rfl := hstep.eq_of_terminal hlive
      simp [hr', Status.isLive] at hlive
    | true =>
      by_cases hrunning : r₁.status = .running
      · obtain rfl := ih hrunning
        exact hstep.eq_of_running hr hr'
      · have hwaiting : r₁.status = .pending ∨ r₁.status = .dispatched := by
          cases h₁ : r₁.status <;> simp_all [Status.isLive]
        obtain rfl := eq_of_waiting ‹Relation.ReflTransGen _ _ _› hwaiting
        exact absurd hr hrunning

end Later

end Row

/-! ## What a statement does to the table -/

/-- Every row of the one table is a row of the other, a step later. -/
structure StoreStep (s s' : Store) : Prop where
  forth : ∀ r ∈ s.invocations, ∃ r' ∈ s'.invocations, Row.Step r r'
  back : ∀ r' ∈ s'.invocations, ∃ r ∈ s.invocations, Row.Step r r'

lemma StoreStep.refl (s : Store) : StoreStep s s :=
  ⟨fun r hr => ⟨r, hr, .same⟩, fun r hr => ⟨r, hr, .same⟩⟩

/-- An update is a step if it is one of the rows it hits. -/
lemma StoreStep.update {s : Store} {p : Row → Bool} {f : Row → Row} {hf : ∀ r, (f r).id = r.id}
    (h : ∀ r ∈ s.invocations, p r = true → Row.Step r (f r)) :
    StoreStep s ⟨s.invocations.update p f hf⟩ := by
  have hrow : ∀ r ∈ s.invocations, Row.Step r (if p r then f r else r) := by
    intro r hr
    by_cases hp : p r = true
    · rw [if_pos hp]
      exact h r hr hp
    · rw [if_neg hp]
      exact .same
  have hmem : ∀ r', r' ∈ s.invocations.update p f hf ↔
      ∃ r ∈ s.invocations, r' = if p r then f r else r := fun _ => Table.mem_update
  constructor
  · exact fun r hr => ⟨_, (hmem _).mpr ⟨r, hr, rfl⟩, hrow r hr⟩
  · intro r' hr'
    obtain ⟨r, hr, rfl⟩ := (hmem r').mp hr'
    exact ⟨r, hr, hrow r hr⟩

lemma StoreStep.wellFormed {s s' : Store} (h : StoreStep s s') (hs : s.WellFormed) :
    s'.WellFormed := by
  intro r' hr'
  obtain ⟨r, hr, hstep⟩ := h.back r' hr'
  exact hstep.wellFormed (hs r hr)

/-- A stored row is determined by its id. -/
lemma Store.row_ext {s : Store} {r r' : Row} (hr : r ∈ s.invocations) (hr' : r' ∈ s.invocations)
    (h : r.id = r'.id) : r = r' :=
  Table.eq_of_clash hr hr' (beq_iff_eq.mpr h)

lemma mem_returning_head {T : Table Row} {p : Row → Bool} {f : Row → Row} {row : Row}
    (h : (T.returning p f).head? = some row) : ∃ r ∈ T, p r = true ∧ f r = row :=
  Table.mem_returning.mp (List.mem_of_mem_head? h)

/-! ## The guards -/

lemma AcceptWrite.hits_iff {w : AcceptWrite} {r : Row} : w.hits r = true ↔
    r.id = w.row.id ∧ r.workspaceId = w.workspaceId ∧ r.status = .dispatched ∧
      r.dispatchedTo w.nodeId w.provider w.row.dispatchAttempts = true ∧
      ∃ task, r.taskState = some task ∧ task.workerGeneration = none ∧ w.now < task.deadline := by
  cases hstate : r.taskState with
  | none => simp [hits, Row.inTime, hstate]
  | some task => simp [hits, Row.inTime, hstate, and_assoc]

lemma CompleteWrite.hits_iff {w : CompleteWrite} {r : Row} : w.hits r = true ↔
    r.id = w.row.id ∧ r.workspaceId = w.workspaceId ∧ r.status = .running ∧
      r.dispatchedTo w.nodeId w.provider w.row.dispatchAttempts = true ∧
      ∃ task executionId generation, r.taskState = some task ∧
        task.executionId = some executionId ∧ w.message.executionId = some executionId ∧
        task.workerGeneration = some generation ∧ w.message.workerGeneration = some generation ∧
        w.now < task.deadline := by
  cases hstate : r.taskState with
  | none => simp [hits, Row.inTime, hstate]
  | some task =>
    cases hexec : task.executionId <;> cases hgen : task.workerGeneration <;>
      simp [hits, Row.inTime, hstate, hexec, hgen, and_assoc]

lemma FleetActionResultMessage.status_not_live (m : FleetActionResultMessage) :
    m.status.isLive = false := by
  unfold status
  split <;> rfl

/-- The update was built from the row it hits. -/
def Stmt.BuiltFrom (s : Store) : Stmt → Prop
  | .accept w => ∀ r ∈ s.invocations, w.hits r = true → r.taskState = some w.task
  | .complete w => ∀ r ∈ s.invocations, w.hits r = true → r.taskState = some w.task
  | _ => True

lemma overdue_iff {now : Millis} {r : Row} :
    r.overdue now = true ↔ ∃ task, r.taskState = some task ∧ task.deadline ≤ now := by
  cases hstate : r.taskState <;> simp [Row.overdue, hstate]

/-- **One statement, one step.** -/
theorem storeStep_run {s : Store} (hs : s.WellFormed) (q : Stmt) (a : q.Answer)
    (hq : q.BuiltFrom s) : StoreStep s (run q a s).2 := by
  cases q with
  | newDate | read => exact StoreStep.refl s
  | expire id workspaceId completedAt now =>
    refine StoreStep.update fun r hr hp => ?_
    simp only [Bool.and_eq_true] at hp
    obtain ⟨task, hstate, hdue⟩ := overdue_iff.mp hp.2
    exact .expire task hstate hp.1.2 completedAt now hdue
  | accept w =>
    refine StoreStep.update fun r hr hp => ?_
    have hbase := hq r hr hp
    obtain ⟨-, -, hstatus, -, task, hstate, hgen, -⟩ := AcceptWrite.hits_iff.mp hp
    obtain rfl : task = w.task := Option.some.inj (hstate.symm.trans hbase)
    refine .accept w.task hbase hstatus ?_ _ _ w.acceptedAt
    have := (hs r hr w.task hbase).generation
    simpa [hgen] using this
  | complete w =>
    refine StoreStep.update fun r hr hp => ?_
    obtain ⟨-, -, hstatus, -⟩ := CompleteWrite.hits_iff.mp hp
    exact .complete w.task (hq r hr hp) hstatus _ w.message.status_not_live _ _ _ _
  | expireAll completedAt now =>
    refine StoreStep.update fun r hr hp => ?_
    rw [Bool.and_eq_true] at hp
    obtain ⟨task, hstate, hdue⟩ := overdue_iff.mp hp.2
    exact .expire task hstate hp.1 completedAt now hdue

end TaskInvocation
