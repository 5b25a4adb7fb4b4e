import Mathlib.Data.List.Sort
import Mathlib.Logic.Function.Basic
import Relaycast.Interleaving.Run
import Relaycast.Relational.Chunks
import Relaycast.Relational.Table
import Relaycast.Relational.Timestamp

/-!
# The workspace event log

Every event of a workspace is appended to `workspace_events` under the number after the highest one
its workspace has, and published with that number.  A batch numbers the events of all its workspaces
in one statement and then finds out which number belongs to which event.  Retention deletes old
rows, but never the highest of a workspace.  Clients page through the log by the last number they
saw.
-/

namespace EventLog

open Relational Interleaving

abbrev WorkspaceId := String

/-! ## Tables -/

/-- A row of `workspace_events`; `payload` is the stored text. -/
structure Row where
  workspaceId : WorkspaceId
  seq : ℕ
  type : String
  channelId : Option String
  payload : String
  createdAt : Seconds
  deriving DecidableEq

instance : Keyed Row where
  Key := WorkspaceId × ℕ
  key r := (r.workspaceId, r.seq)
  clash k k' := k == k'
  clash_comm _ _ := BEq.comm

/-- `WorkspaceEventInput`; `payload` is what `JSON.stringify` makes of it. -/
structure EventInput where
  type : String
  channelId : Option String
  payload : String
  deriving DecidableEq

/-- `ScopedWorkspaceEventInput`. -/
structure ScopedEventInput where
  workspaceId : WorkspaceId
  input : EventInput
  deriving DecidableEq

/-- The row of an event under a number. -/
def ScopedEventInput.row (e : ScopedEventInput) (seq : ℕ) (createdAt : Seconds) : Row :=
  ⟨e.workspaceId, seq, e.input.type, e.input.channelId, e.input.payload, createdAt⟩

/-- `WorkspaceEventRecord`. -/
structure EventRecord where
  seq : ℕ
  type : String
  channelId : Option String
  payload : String
  createdAt : Seconds
  deriving DecidableEq

/-- A row as a page shows it. -/
def Row.record (r : Row) : EventRecord := ⟨r.seq, r.type, r.channelId, r.payload, r.createdAt⟩

/-- The log of all workspaces. -/
abbrev Log := Table Row

namespace Log

variable (log : Log)

/-- `SELECT COALESCE(MAX(seq), 0) FROM workspace_events WHERE workspace_id = ?`. -/
def highWater (workspaceId : WorkspaceId) : ℕ :=
  ((log.select fun r => r.workspaceId == workspaceId).map Row.seq).foldr max 0

/-- The log after rows are inserted, one after the other. -/
def append (rows : List Row) : Log := rows.foldl Table.insertOrIgnore log

/-- `EXISTS (SELECT 1 FROM workspace_events hw WHERE hw.workspace_id = … AND hw.seq > …)`. -/
def hasHigher (r : Row) : Bool :=
  log.rows.any fun hw => hw.workspaceId == r.workspaceId && decide (r.seq < hw.seq)

/-- What retention deletes of the rows it has picked. -/
def prune (picked : List (WorkspaceId × ℕ)) : Log :=
  log.deleteWhere fun r => decide ((r.workspaceId, r.seq) ∈ picked) && log.hasHigher r

/-- `SELECT … WHERE workspace_id = ? AND seq > ? ORDER BY seq LIMIT ?`. -/
def page (workspaceId : WorkspaceId) (since limit : ℕ) : List Row :=
  ((log.select fun r => r.workspaceId == workspaceId && decide (since < r.seq)).insertionSort
    fun r r' => r.seq ≤ r'.seq).take limit

end Log

/-- `bases.base_seq + ROW_NUMBER() OVER (PARTITION BY workspace_id ORDER BY global_ord)`: each event
of a workspace moves the base of that workspace on by one. -/
def ranked (createdAt : Seconds) : (WorkspaceId → ℕ) → List ScopedEventInput → List Row
  | _, [] => []
  | base, e :: rest =>
    e.row (base e.workspaceId + 1) createdAt ::
      ranked createdAt (Function.update base e.workspaceId (base e.workspaceId + 1)) rest

/-! ## Statements -/

/-- `RETURNING` gives rows back in an order of its own. -/
abbrev Reordering : Type :=
  { f : List (WorkspaceId × ℕ) → List (WorkspaceId × ℕ) // ∀ rows, (f rows).Perm rows }

/-- What is thrown where a statement fails. -/
structure Fault where
  message : String

/-- The second an insert is stamped with, whether it fails, and whether it has been committed
where it does: a reply can be lost. -/
structure Insertion where
  createdAt : Seconds
  fault : Option Fault
  reaches : Bool

/-- Is the insert committed? -/
def Insertion.applied (a : Insertion) : Bool := a.fault.isNone || a.reaches

/-- The statements.  `append` is `buildWorkspaceEventWrite`; `prune` is a deletion of one of the two
retention paths. -/
inductive Stmt
  | append (workspaceId : WorkspaceId) (input : EventInput)
  | appendWhen (workspaceId : WorkspaceId) (input : EventInput)
  | appendBatch (batch : List ScopedEventInput)
  | page (workspaceId : WorkspaceId) (since limit : ℕ)
  | latestSeq (workspaceId : WorkspaceId)
  | prune (picked : List (WorkspaceId × ℕ))
  | publish (workspaceId : WorkspaceId) (payload : String) (seq : Option ℕ)

/-- What the outside world contributes: the insertions, whether the predicate of a guarded append
holds, the order of `RETURNING`, and what fails. -/
def Stmt.Answer : Stmt → Type
  | .append .. => Insertion
  | .appendWhen .. => Insertion × Bool
  | .appendBatch _ => Insertion × Reordering
  | .prune _ => Option Fault × Bool
  | .page .. | .latestSeq _ | .publish .. => Option Fault

/-- What each statement replies. -/
def Stmt.Reply : Stmt → Type
  | .append .. => Except Fault ℕ
  | .appendWhen .. => Except Fault (Option ℕ)
  | .appendBatch _ => Except Fault (List (WorkspaceId × ℕ))
  | .page .. => Except Fault (List Row)
  | .latestSeq _ => Except Fault ℕ
  | .prune _ | .publish .. => Except Fault Unit

/-- The language of the event log. -/
abbrev lang : Language where
  Stmt := Stmt
  Answer := Stmt.Answer
  Reply := Stmt.Reply

/-- Issue one statement and return its reply. -/
abbrev await (q : Stmt) : Prog lang q.Reply := Prog.ask (L := lang) q

/-- The rows a batch inserts. -/
def Log.batchRows (log : Log) (batch : List ScopedEventInput) (createdAt : Seconds) : List Row :=
  ranked createdAt log.highWater batch

/-- A reply, unless there is a fault. -/
def orFault {α : Type} (fault : Option Fault) (a : α) : Except Fault α :=
  match fault with
  | some f => .error f
  | none => .ok a

/-- Execute one statement. -/
def run : (q : Stmt) → q.Answer → Log → q.Reply × Log
  | .append workspaceId input, (a : Insertion), log =>
    let row := ScopedEventInput.row ⟨workspaceId, input⟩ (log.highWater workspaceId + 1) a.createdAt
    (orFault a.fault row.seq, if a.applied then log.append [row] else log)
  | .appendWhen workspaceId input, (a : Insertion × Bool), log =>
    let row :=
      ScopedEventInput.row ⟨workspaceId, input⟩ (log.highWater workspaceId + 1) a.1.createdAt
    (orFault a.1.fault (if a.2 then some row.seq else none),
      if a.1.applied && a.2 then log.append [row] else log)
  | .appendBatch batch, (a : Insertion × Reordering), log =>
    let rows := log.batchRows batch a.1.createdAt
    (orFault a.1.fault (a.2.1 (rows.map key)), if a.1.applied then log.append rows else log)
  | .page workspaceId since limit, (fault : Option Fault), log =>
    (orFault fault (log.page workspaceId since limit), log)
  | .latestSeq workspaceId, (fault : Option Fault), log =>
    (orFault fault (log.highWater workspaceId), log)
  | .prune picked, (a : Option Fault × Bool), log =>
    (orFault a.1 (), if a.1.isNone || a.2 then log.prune picked else log)
  | .publish .., (fault : Option Fault), log => (orFault fault (), log)

/-- The machine of the event log; nobody else writes it. -/
def machine : Machine lang Log where
  run := run
  Drift := Empty
  drift d _ := d.elim

/-! ## Functions -/

/-- `WORKSPACE_EVENT_APPEND_BATCH_SIZE`. -/
def WORKSPACE_EVENT_APPEND_BATCH_SIZE : ℕ := 24

/-- `WORKSPACE_EVENT_LIST_DEFAULT_LIMIT`. -/
def WORKSPACE_EVENT_LIST_DEFAULT_LIMIT : ℤ := 200

/-- `WORKSPACE_EVENT_LIST_MAX_LIMIT`. -/
def WORKSPACE_EVENT_LIST_MAX_LIMIT : ℤ := 500

/-- `appendWorkspaceEvent`. -/
def appendWorkspaceEvent (workspaceId : WorkspaceId) (input : EventInput) :
    Prog lang (Option ℕ) := do
  let written : Except Fault ℕ ← await (.append workspaceId input)
  match written with
  | .ok seq => return some seq
  | .error _ => return none

/-- The numbers that came back for each workspace, sorted. -/
def seqsByWorkspace (rows : List (WorkspaceId × ℕ)) (workspaceId : WorkspaceId) : List ℕ :=
  ((rows.filter fun r => r.1 == workspaceId).map Prod.snd).insertionSort (· ≤ ·)

/-- Each event takes the next number of its workspace. -/
def assign : List ScopedEventInput → (WorkspaceId → List ℕ) → List (Option ℕ)
  | [], _ => []
  | e :: rest, seqs =>
    (seqs e.workspaceId).head? ::
      assign rest (Function.update seqs e.workspaceId (seqs e.workspaceId).tail)

/-- What a slice contributes: the numbers of its events, or nulls where it failed. -/
def assigned (batch : List ScopedEventInput) :
    Except Fault (List (WorkspaceId × ℕ)) → List (Option ℕ)
  | .ok rows =>
    if rows.length = batch.length then assign batch (seqsByWorkspace rows)
    else batch.map fun _ => none
  | .error _ => batch.map fun _ => none

/-- The loop over the slices; a failed one does not stop the later ones. -/
def appendSlices : List (List ScopedEventInput) → Prog lang (List (Option ℕ))
  | [] => return []
  | batch :: rest => do
    let written : Except Fault (List (WorkspaceId × ℕ)) ← await (.appendBatch batch)
    let more : List (Option ℕ) ← appendSlices rest
    return assigned batch written ++ more

/-- `appendWorkspaceEventBatch`. -/
def appendWorkspaceEventBatch (inputs : List ScopedEventInput) : Prog lang (List (Option ℕ)) :=
  appendSlices (slices WORKSPACE_EVENT_APPEND_BATCH_SIZE inputs.length inputs)

/-- `appendWorkspaceEvents`. -/
def appendWorkspaceEvents (workspaceId : WorkspaceId) (inputs : List EventInput) :
    Prog lang (List (Option ℕ)) :=
  appendWorkspaceEventBatch (inputs.map fun input => ⟨workspaceId, input⟩)

/-- What comes of the two reads of a page. -/
def listed : Except Fault (List Row) → Except Fault ℕ →
    Prog lang (Except Fault (List EventRecord × ℕ))
  | .ok rows, .ok latestSeq => return .ok (rows.map Row.record, latestSeq)
  | .error f, _ | _, .error f => return .error f

/-- `listWorkspaceEvents`.  Both reads are started at once; `latestFirst` says which is executed
first. -/
def listWorkspaceEvents (workspaceId : WorkspaceId) (since limit : Option ℤ) (latestFirst : Bool) :
    Prog lang (Except Fault (List EventRecord × ℕ)) := do
  let since := (max 0 (since.getD 0)).toNat
  let limit := (min (max 1 (limit.getD WORKSPACE_EVENT_LIST_DEFAULT_LIMIT))
    WORKSPACE_EVENT_LIST_MAX_LIMIT).toNat
  let early : Except Fault ℕ ← if latestFirst then await (.latestSeq workspaceId) else pure (.ok 0)
  let rows : Except Fault (List Row) ← await (.page workspaceId since limit)
  let late : Except Fault ℕ ← if latestFirst then pure early else await (.latestSeq workspaceId)
  listed rows late

/-- `appendAndPublishWorkspaceEvent`: a failed append publishes the frame without a number. -/
def appendAndPublishWorkspaceEvent (workspaceId : WorkspaceId) (input : EventInput) :
    Prog lang Unit := do
  let seq : Option ℕ ← appendWorkspaceEvent workspaceId input
  let _ : Except Fault Unit ← await (.publish workspaceId input.payload seq)
  return ()

/-- `appendAndPublishWorkspaceEventWhen`. -/
def appendAndPublishWorkspaceEventWhen (workspaceId : WorkspaceId) (input : EventInput) :
    Prog lang Bool := do
  let written : Except Fault (Option ℕ) ← await (.appendWhen workspaceId input)
  match written with
  | .ok (some seq) =>
    let _ : Except Fault Unit ← await (.publish workspaceId input.payload (some seq))
    return true
  | .ok none | .error _ => return false

/-- The events of a batch are published in turn, each with its number. -/
def publishAll : List (ScopedEventInput × Option ℕ) → Prog lang Unit
  | [] => return ()
  | (e, seq) :: rest => do
    let _ : Except Fault Unit ← await (.publish e.workspaceId e.input.payload seq)
    publishAll rest

/-- `appendAndPublishWorkspaceEventBatch`. -/
def appendAndPublishWorkspaceEventBatch (events : List ScopedEventInput) : Prog lang Unit := do
  let seqs : List (Option ℕ) ← appendWorkspaceEventBatch events
  publishAll (events.zip seqs)

/-- The deletions of a retention run. -/
def pruneSlices : List (List (WorkspaceId × ℕ)) → Prog lang (Except Fault Unit)
  | [] => return .ok ()
  | picked :: rest => do
    let deleted : Except Fault Unit ← await (.prune picked)
    match deleted with
    | .ok () => pruneSlices rest
    | .error f => return .error f

/-- One request of a client that pages through a log: the limit it asks for, and the order of the
two reads. -/
structure PageRequest where
  limit : Option ℤ
  latestFirst : Bool

/-- The last number a client has seen. -/
def lastSeen (since : ℕ) (page : List EventRecord) : ℕ :=
  (page.getLast?.map EventRecord.seq).getD since

/-- A client that pages through the log of a workspace: what it has received, and the last number it
has seen.  It stops at a failure. -/
def follow (workspaceId : WorkspaceId) : List PageRequest → ℕ → Prog lang (List EventRecord × ℕ)
  | [], since => return ([], since)
  | request :: rest, since => do
    let page : Except Fault (List EventRecord × ℕ) ←
      listWorkspaceEvents workspaceId (some since) request.limit request.latestFirst
    match page with
    | .error _ => return ([], since)
    | .ok (events, _) =>
      let more : List EventRecord × ℕ ← follow workspaceId rest (lastSeen since events)
      return (events ++ more.1, more.2)

/-! ## The service -/

/-- A call of one of the functions. -/
inductive Call
  | appendWorkspaceEvent (workspaceId : WorkspaceId) (input : EventInput)
  | buildWorkspaceEventWrite (workspaceId : WorkspaceId) (input : EventInput)
  | appendWorkspaceEventBatch (inputs : List ScopedEventInput)
  | appendAndPublishWorkspaceEvent (workspaceId : WorkspaceId) (input : EventInput)
  | appendAndPublishWorkspaceEventWhen (workspaceId : WorkspaceId) (input : EventInput)
  | appendAndPublishWorkspaceEventBatch (events : List ScopedEventInput)
  | listWorkspaceEvents (workspaceId : WorkspaceId) (since limit : Option ℤ) (latestFirst : Bool)
  | follow (workspaceId : WorkspaceId) (since : ℕ) (requests : List PageRequest)
  | prune (picked : List (List (WorkspaceId × ℕ)))

/-- What a call returns. -/
def Call.Result : Call → Type
  | .appendWorkspaceEvent .. => Option ℕ
  | .buildWorkspaceEventWrite .. => Except Fault ℕ
  | .appendWorkspaceEventBatch _ => List (Option ℕ)
  | .appendAndPublishWorkspaceEvent .. | .appendAndPublishWorkspaceEventBatch _ => Unit
  | .appendAndPublishWorkspaceEventWhen .. => Bool
  | .listWorkspaceEvents .. => Except Fault (List EventRecord × ℕ)
  | .follow .. => List EventRecord × ℕ
  | .prune _ => Except Fault Unit

/-- The body of a call. -/
def Call.body : (c : Call) → Prog lang c.Result
  | .appendWorkspaceEvent workspaceId input => EventLog.appendWorkspaceEvent workspaceId input
  | .buildWorkspaceEventWrite workspaceId input => await (.append workspaceId input)
  | .appendWorkspaceEventBatch inputs => EventLog.appendWorkspaceEventBatch inputs
  | .appendAndPublishWorkspaceEvent workspaceId input =>
    EventLog.appendAndPublishWorkspaceEvent workspaceId input
  | .appendAndPublishWorkspaceEventWhen workspaceId input =>
    EventLog.appendAndPublishWorkspaceEventWhen workspaceId input
  | .appendAndPublishWorkspaceEventBatch events =>
    EventLog.appendAndPublishWorkspaceEventBatch events
  | .listWorkspaceEvents workspaceId since limit latestFirst =>
    EventLog.listWorkspaceEvents workspaceId since limit latestFirst
  | .follow workspaceId since requests => EventLog.follow workspaceId requests since
  | .prune picked => pruneSlices picked

/-- The event log; a run starts from any log. -/
def service : System lang Log Call Call.Result where
  toMachine := machine
  body := Call.body
  init _ := True

end EventLog
