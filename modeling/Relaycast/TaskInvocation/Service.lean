import Relaycast.TaskInvocation.Tables

/-!
# Accepting, completing and expiring task invocations

The functions of `taskInvocation.ts` that providers and sweeps call, as programs over the
statements.
-/

namespace TaskInvocation

open Relational Interleaving Script

/-! ## Errors -/

/-- `codedError`. -/
structure CodedError where
  message : String
  code : String
  status : ℕ

def notOwned : CodedError :=
  ⟨"Task execution is not owned by this provider", "task_not_found", 404⟩

def staleExecution : CodedError :=
  ⟨"Task execution fence or worker generation changed", "stale_task_execution", 409⟩

def notDispatched : CodedError :=
  ⟨"Task is not in the dispatched execution", "task_not_dispatched", 409⟩

def fieldsRequireTask : CodedError :=
  ⟨"Task result fields require a task invocation", "task_not_found", 404⟩

def fieldsRequired : CodedError :=
  ⟨"Task results require id, execution_id, worker_generation and final", "invalid_task_result", 400⟩

def notAccepted : CodedError :=
  ⟨"Task must be accepted before reporting results", "task_not_accepted", 409⟩

def reasonRequired : CodedError :=
  ⟨"Task failure must name a reason", "invalid_task_result", 400⟩

def differentResult : CodedError :=
  ⟨"Task already has a different terminal result", "task_result_conflict", 409⟩

def lostTransition : CodedError :=
  ⟨"Task completion lost its state transition", "task_result_conflict", 409⟩

/-- What the runtime throws when a row that was just there is gone. -/
def rowGone : CodedError := ⟨"Cannot read properties of undefined", "internal_error", 500⟩

/-! ## The functions -/

/-- `owner` and `fence`, which always follow each other. -/
def ownedAndFenced (row : Option Row) (nodeId : NodeId) (provider executionId generation : String) :
    Except CodedError Row :=
  match row with
  | none => .error notOwned
  | some row =>
    match row.taskState with
    | none => .error notOwned
    | some task =>
      if row.dispatchedNodeId ≠ some nodeId ∨ row.dispatchedProvider ≠ some provider then
        .error notOwned
      else if task.executionId.getD (row.id ++ "/" ++ toString row.dispatchAttempts) ≠ executionId ∨
          (task.workerGeneration.isSome ∧ task.workerGeneration ≠ some generation) then
        .error staleExecution
      else .ok row

/-- The part of `expireTaskInvocation` after its test. -/
def expireOverdue (row : Row) : Prog lang (Option Row) := do
  let completedAt : Millis ← await .newDate
  let now : Millis ← await .newDate
  let updated : Option Row ← await (.expire row.id row.workspaceId completedAt now)
  match updated with
  | some updated => return some updated
  | none => do
    let fresh : Option Row ← await (.read row.workspaceId row.id)
    return fresh

/-- `expireTaskInvocation`: the row as it stands; `none` if it is gone. -/
def expireTaskInvocation (row : Row) : Prog lang (Option Row) :=
  match row.taskState with
  | none => return some row
  | some task => do
    let now : Millis ← await .newDate
    if !row.status.isLive || decide (now < task.deadline) then return some row
    else expireOverdue row

/-- What an accept returns: the receipt, and `newly_accepted`. -/
abbrev AcceptResult := Except CodedError (Receipt × Bool)

/-- The part of `acceptTaskInvocation` that accepts a dispatched row. -/
def acceptDispatched (workspaceId : WorkspaceId) (nodeId : NodeId) (provider : String)
    (m : FleetActionAcceptMessage) (row : Row) (task : TaskState) : Prog lang AcceptResult := do
  let acceptedAt : Millis ← await .newDate
  let now : Millis ← await .newDate
  let accepted : Option Row ← await
    (.accept ⟨workspaceId, nodeId, provider, m, row, task, acceptedAt, now⟩)
  match accepted with
  | some accepted => return .ok (receipt accepted, true)
  | none => do
    let found : Option Row ← await (.read workspaceId row.id)
    match ownedAndFenced found nodeId provider m.executionId m.workerGeneration with
    | .error e => return .error e
    | .ok row =>
      if row.status = .running ∨ row.status = .completed ∨ row.status = .failed then
        return .ok (receipt row, false)
      else return .error notDispatched

/-- `acceptTaskInvocation`. -/
def acceptTaskInvocation (workspaceId : WorkspaceId) (nodeId : NodeId) (provider : String)
    (m : FleetActionAcceptMessage) : Prog lang AcceptResult := do
  let found : Option Row ← await (.read workspaceId m.invocationId)
  match ownedAndFenced found nodeId provider m.executionId m.workerGeneration with
  | .error e => return .error e
  | .ok row => do
    let current ← expireTaskInvocation row
    match current with
    | none => return .error rowGone
    | some row =>
      if row.status = .completed ∨ row.status = .failed ∨ row.status = .running then
        return .ok (receipt row, false)
      else
        match row.taskState with
        | none => return .error rowGone
        | some task => acceptDispatched workspaceId nodeId provider m row task

/-- What a result returns: its receipt and the row it completed. -/
structure CompleteResult where
  receipt : Receipt
  completed : Option Row

/-- What `completeTaskInvocation` returns; `none` for a legacy short action. -/
abbrev CompletionResult := Except CodedError (Option CompleteResult)

/-- The part of `completeTaskInvocation` that writes a final result. -/
def completeRunning (workspaceId : WorkspaceId) (nodeId : NodeId)
    (provider executionId generation : String) (m : FleetActionResultMessage) (row : Row)
    (task : TaskState) : Prog lang CompletionResult := do
  let completedAt : Millis ← await .newDate
  let now : Millis ← await .newDate
  let completed : Option Row ← await
    (.complete ⟨workspaceId, nodeId, provider, m, row, task, completedAt, now⟩)
  match completed with
  | some completed => return .ok (some ⟨receipt completed, some completed⟩)
  | none => do
    let found : Option Row ← await (.read workspaceId row.id)
    match ownedAndFenced found nodeId provider executionId generation with
    | .error e => return .error e
    | .ok row =>
      if m.matchesRow row then return .ok (some ⟨receipt row, none⟩)
      else return .error lostTransition

/-- The part of `completeTaskInvocation` that looks at the current row. -/
def completeCurrent (workspaceId : WorkspaceId) (nodeId : NodeId)
    (provider executionId generation : String) (final : Bool) (m : FleetActionResultMessage)
    (row : Row) (task : TaskState) : Prog lang CompletionResult :=
  if task.acceptedAt.isNone then return .error notAccepted
  else if !final then return .ok (some ⟨receipt row, none⟩)
  else if m.error.any isBlank then return .error reasonRequired
  else if row.status = .completed ∨ row.status = .failed then
    if !m.matchesRow row then return .error differentResult
    else return .ok (some ⟨receipt row, none⟩)
  else completeRunning workspaceId nodeId provider executionId generation m row task

/-- `completeTaskInvocation`. -/
def completeTaskInvocation (workspaceId : WorkspaceId) (nodeId : NodeId) (provider : String)
    (m : FleetActionResultMessage) : Prog lang CompletionResult := do
  let candidate : Option Row ← await (.read workspaceId m.invocationId)
  if (candidate.bind (·.taskState)).isNone then
    if truthy m.executionId || truthy m.workerGeneration || m.final.isSome || m.accounting.isSome
    then return .error fieldsRequireTask
    else return .ok none
  else
    match m.executionId, m.workerGeneration, m.final with
    | some executionId, some generation, some final =>
      if !truthy m.id || executionId = "" || generation = "" then return .error fieldsRequired
      else
        match ownedAndFenced candidate nodeId provider executionId generation with
        | .error e => return .error e
        | .ok row => do
          let current ← expireTaskInvocation row
          match current with
          | none => return .error rowGone
          | some row =>
            match row.taskState with
            | none => return .error rowGone
            | some task =>
              completeCurrent workspaceId nodeId provider executionId generation final m row task
    | _, _, _ => return .error fieldsRequired

/-- `expireTaskInvocations`. -/
def expireTaskInvocations : Prog lang Unit := do
  let completedAt : Millis ← await .newDate
  let now : Millis ← await .newDate
  let done : Unit ← await (.expireAll completedAt now)
  return done

/-! ## The calls -/

/-- The calls that are made. -/
inductive Call
  | acceptTaskInvocation (workspaceId : WorkspaceId) (nodeId : NodeId) (provider : String)
      (message : FleetActionAcceptMessage)
  | completeTaskInvocation (workspaceId : WorkspaceId) (nodeId : NodeId) (provider : String)
      (message : FleetActionResultMessage)
  | expireTaskInvocation (row : Row)
  | expireTaskInvocations

/-- What a call returns. -/
abbrev Call.Result : Call → Type
  | .acceptTaskInvocation .. => AcceptResult
  | .completeTaskInvocation .. => CompletionResult
  | .expireTaskInvocation _ => Option Row
  | .expireTaskInvocations => Unit

def Call.body : (c : Call) → Prog lang c.Result
  | .acceptTaskInvocation workspaceId nodeId provider message =>
    TaskInvocation.acceptTaskInvocation workspaceId nodeId provider message
  | .completeTaskInvocation workspaceId nodeId provider message =>
    TaskInvocation.completeTaskInvocation workspaceId nodeId provider message
  | .expireTaskInvocation row => TaskInvocation.expireTaskInvocation row
  | .expireTaskInvocations => TaskInvocation.expireTaskInvocations

/-! ## Well-formed rows -/

/-- What a task state says fits the status: the three fields of an acceptance come together, a row
that waits has none, a row that runs or is completed has them, and only a terminal row has
accounting. -/
structure Row.WellFormed (r : Row) (task : TaskState) : Prop where
  execution : task.executionId.isSome = task.acceptedAt.isSome
  generation : task.workerGeneration.isSome = task.acceptedAt.isSome
  waiting : r.status = .pending ∨ r.status = .dispatched → task.acceptedAt = none
  started : r.status = .running ∨ r.status = .completed → task.acceptedAt.isSome = true
  accounting : r.status.isLive = true → task.accounting = none

/-- Every row with a task state is well-formed. -/
def Store.WellFormed (s : Store) : Prop :=
  ∀ r ∈ s.invocations, ∀ task, r.taskState = some task → r.WellFormed task

/-- The functions over any well-formed table. -/
def service : System lang Store Call Call.Result where
  toMachine := machine
  body := Call.body
  init := Store.WellFormed

end TaskInvocation
