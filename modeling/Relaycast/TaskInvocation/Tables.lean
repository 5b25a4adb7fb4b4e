import Relaycast.Interleaving.History
import Relaycast.Relational.Table
import Relaycast.Relational.Timestamp
import Relaycast.Script.Json
import Relaycast.Script.Text

/-!
# Task invocations

The rows of `action_invocations` with a task state, and the statements `taskInvocation.ts` issues
on them: a read by id, three updates that are each guarded by the columns the caller has compared,
and the update of the sweep.  An update returns the row it wrote, or nothing.

Timestamps inside the task state are texts of `toISOString`, which compare like the instants they
name; they are instants here.  Each `new Date()` is a statement of its own whose reply is whatever
the clock of the process says, so clocks may differ and need not advance.
-/

namespace TaskInvocation

open Relational Interleaving Script

abbrev WorkspaceId := String
abbrev InvocationId := String
abbrev NodeId := String

/-- `action_invocations.status`. -/
inductive Status
  | pending
  | dispatched
  | running
  | completed
  | failed
  deriving DecidableEq

/-- `liveStates`. -/
def Status.isLive : Status → Bool
  | .pending | .dispatched | .running => true
  | .completed | .failed => false

/-- Numbers by name. -/
abbrev Accounting := List (String × NumberText)

/-- `accounting`, where it may be `undefined`. -/
def accountingJson : Option Accounting → Json
  | none => .null
  | some fields => .obj (fields.map fun f => (f.1, .num f.2))

/-- `TaskInvocationState`. -/
structure TaskState where
  runId : String
  stepId : String
  dispatchId : String
  timeoutMs : ℕ
  deadline : Millis
  executionId : Option String
  workerGeneration : Option String
  acceptedAt : Option Millis
  accounting : Option Accounting

/-- A row of `action_invocations`. -/
structure Row where
  workspaceId : WorkspaceId
  id : InvocationId
  actionName : String
  taskState : Option TaskState
  output : Json
  error : Option String
  status : Status
  dispatchedNodeId : Option NodeId
  dispatchedProvider : Option String
  dispatchAttempts : ℕ
  completedAt : Option Millis

instance : Keyed Row where
  Key := InvocationId
  key r := r.id
  clash k k' := k == k'
  clash_comm _ _ := BEq.comm

structure Store where
  invocations : Table Row

/-! ## What a row says about its execution -/

/-- What `taskExecution` returns. -/
structure TaskExecution where
  executionId : String
  runId : String
  stepId : String
  dispatchId : String
  deadline : Millis
  workerGeneration : Option String
  acceptedAt : Option Millis
  accounting : Option Accounting

/-- `taskExecution`: a spread leaves out an empty generation. -/
def taskExecution (row : Row) : Option TaskExecution :=
  row.taskState.map fun task =>
    { executionId := task.executionId.getD (row.id ++ "/" ++ toString row.dispatchAttempts)
      runId := task.runId
      stepId := task.stepId
      dispatchId := task.dispatchId
      deadline := task.deadline
      workerGeneration := task.workerGeneration.filter (· != "")
      acceptedAt := task.acceptedAt
      accounting := task.accounting }

/-- What `receipt` returns. -/
structure Receipt where
  invocationId : InvocationId
  actionName : String
  status : Status
  taskExecution : Option TaskExecution
  output : Json
  error : Option String
  completedAt : Option Millis

/-- `receipt`. -/
def receipt (row : Row) : Receipt where
  invocationId := row.id
  actionName := row.actionName
  status := row.status
  taskExecution := taskExecution row
  output := row.output
  error := row.error
  completedAt := row.completedAt

/-! ## Messages -/

/-- `FleetActionAcceptMessage`. -/
structure FleetActionAcceptMessage where
  invocationId : InvocationId
  executionId : String
  workerGeneration : String

/-- `FleetActionResultMessage`, whose optional fields may be missing. -/
structure FleetActionResultMessage where
  id : Option String
  invocationId : InvocationId
  executionId : Option String
  workerGeneration : Option String
  final : Option Bool
  accounting : Option Accounting
  output : Option Json
  error : Option String

namespace FleetActionResultMessage

variable (m : FleetActionResultMessage)

/-- The status a final result asks for. -/
def status : Status := if m.error.isNone then .completed else .failed

/-- `message.output ?? null`. -/
def outputOrNull : Json := m.output.getD .null

/-- `matches`: does the row hold this result? -/
def matchesRow (r : Row) : Bool :=
  r.status == m.status && canonicalJson r.output == canonicalJson m.outputOrNull &&
    r.error == m.error &&
    canonicalJson (accountingJson (r.taskState.bind (·.accounting))) ==
      canonicalJson (accountingJson m.accounting)

end FleetActionResultMessage

/-! ## Statements -/

/-- The update of an accept: what `acceptTaskInvocation` has at hand when it issues it. -/
structure AcceptWrite where
  workspaceId : WorkspaceId
  nodeId : NodeId
  provider : String
  message : FleetActionAcceptMessage
  row : Row
  task : TaskState
  acceptedAt : Millis
  now : Millis

/-- The update of a final result: what `completeTaskInvocation` has at hand when it issues it. -/
structure CompleteWrite where
  workspaceId : WorkspaceId
  nodeId : NodeId
  provider : String
  message : FleetActionResultMessage
  row : Row
  task : TaskState
  completedAt : Millis
  now : Millis

/-- The statements of the area. -/
inductive Stmt
  /-- `new Date()`. -/
  | newDate
  | read (workspaceId : WorkspaceId) (id : InvocationId)
  | expire (id : InvocationId) (workspaceId : WorkspaceId) (completedAt now : Millis)
  | accept (write : AcceptWrite)
  | complete (write : CompleteWrite)
  | expireAll (completedAt now : Millis)

abbrev Stmt.Answer : Stmt → Type
  | .newDate => Millis
  | _ => Unit

abbrev Stmt.Reply : Stmt → Type
  | .newDate => Millis
  | .read .. | .expire .. | .accept _ | .complete _ => Option Row
  | .expireAll .. => Unit

/-- The language of task invocations. -/
abbrev lang : Language where
  Stmt := Stmt
  Answer := Stmt.Answer
  Reply := Stmt.Reply

/-- Issue one statement and return its reply. -/
abbrev await (q : Stmt) : Prog lang q.Reply := Prog.ask (L := lang) q

namespace Row

/-- `json_extract(task_state, '$.deadline') <= now`; a row without a task state has no deadline. -/
def overdue (now : Millis) (r : Row) : Bool := r.taskState.any fun task => decide (task.deadline ≤ now)

/-- `json_extract(task_state, '$.deadline') > now`. -/
def inTime (now : Millis) (r : Row) : Bool := r.taskState.any fun task => decide (now < task.deadline)

/-- What an expiry writes. -/
def expired (completedAt : Millis) (r : Row) : Row :=
  { r with
    status := .failed
    error := some "task_deadline_exceeded"
    completedAt := some completedAt }

/-- Is the row dispatched as the update expects? -/
def dispatchedTo (nodeId : NodeId) (provider : String) (attempts : ℕ) (r : Row) : Bool :=
  r.dispatchedNodeId == some nodeId && r.dispatchedProvider == some provider &&
    r.dispatchAttempts == attempts

end Row

namespace AcceptWrite

variable (w : AcceptWrite)

/-- The task state it writes: the one that was read, with the acceptance. -/
def taskState : TaskState :=
  { w.task with
    executionId := some w.message.executionId
    workerGeneration := some w.message.workerGeneration
    acceptedAt := some w.acceptedAt }

/-- The rows the update of an accept hits. -/
def hits (r : Row) : Bool :=
  r.id == w.row.id && r.workspaceId == w.workspaceId && r.status == .dispatched &&
    r.dispatchedTo w.nodeId w.provider w.row.dispatchAttempts &&
    (r.taskState.bind (·.workerGeneration)).isNone && r.inTime w.now

/-- What it writes. -/
def apply (r : Row) : Row := { r with status := .running, taskState := some w.taskState }

end AcceptWrite

namespace CompleteWrite

variable (w : CompleteWrite)

/-- The task state it writes: the one that was read, with the accounting of the result. -/
def taskState : TaskState :=
  { w.task with
    accounting := if w.message.accounting.isSome then w.message.accounting else w.task.accounting }

/-- The rows the update of a final result hits.  A comparison with a missing value never holds. -/
def hits (r : Row) : Bool :=
  r.id == w.row.id && r.workspaceId == w.workspaceId && r.status == .running &&
    r.dispatchedTo w.nodeId w.provider w.row.dispatchAttempts &&
    (r.taskState.bind (·.executionId)).any (fun e => w.message.executionId == some e) &&
    (r.taskState.bind (·.workerGeneration)).any (fun g => w.message.workerGeneration == some g) &&
    r.inTime w.now

/-- What it writes. -/
def apply (r : Row) : Row :=
  { r with
    status := w.message.status
    output := w.message.outputOrNull
    error := w.message.error
    completedAt := some w.completedAt
    taskState := some w.taskState }

end CompleteWrite

namespace Store

variable (s : Store)

/-- `UPDATE … SET f WHERE p RETURNING`, of at most one row. -/
def updateOne (p : Row → Bool) (f : Row → Row) (hf : ∀ r, (f r).id = r.id) : Option Row × Store :=
  ((s.invocations.returning p f).head?, ⟨s.invocations.update p f hf⟩)

end Store

/-- Execute one statement. -/
def run : (q : Stmt) → q.Answer → Store → q.Reply × Store
  | .newDate, now, s => (now, s)
  | .read workspaceId id, _, s =>
    ((s.invocations.select fun r => r.workspaceId == workspaceId && r.id == id).head?, s)
  | .expire id workspaceId completedAt now, _, s =>
    s.updateOne
      (fun r => r.id == id && r.workspaceId == workspaceId && r.status.isLive && r.overdue now)
      (Row.expired completedAt) fun _ => rfl
  | .accept w, _, s => s.updateOne w.hits w.apply fun _ => rfl
  | .complete w, _, s => s.updateOne w.hits w.apply fun _ => rfl
  | .expireAll completedAt now, _, s =>
    ((), ⟨s.invocations.update (fun r => r.status.isLive && r.overdue now)
      (Row.expired completedAt) fun _ => rfl⟩)

/-- The machine of task invocations. -/
def machine : Machine lang Store where
  run := run
  Drift := Empty
  drift d _ := d.elim

end TaskInvocation
