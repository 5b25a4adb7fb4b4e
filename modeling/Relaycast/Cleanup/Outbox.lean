import Mathlib.Data.List.Sort
import Relaycast.Reactive.Reply
import Relaycast.Reactive.Run
import Relaycast.Relational.Timestamp

/-!
# The outbox of deleted files

The row of a file is deleted with a tombstone of its object: a row of `file_cleanup_queue`, written
by a trigger.  Sweeps delete the objects.  An object can still be uploaded until its last upload
capability expires, so the tombstone stays through `delete_after`, and the object is deleted once
more after that.

`drainFileCleanup` sweeps one page, `deleteQueuedWorkspaceObjects` the pages of some workspaces
until none is due.  Each reads the clock once.  Sweeps can overlap, and every query and every deletion of
objects is an event of its own, which can fail.
-/

namespace Cleanup

open Relational Reactive

/-- `MAX_FILE_CLEANUP_LIMIT`. -/
def MAX_FILE_CLEANUP_LIMIT : ℕ := 90

/-- `DEFAULT_FILE_CLEANUP_LIMIT`. -/
def DEFAULT_FILE_CLEANUP_LIMIT : ℕ := 90

/-- `FILE_CLEANUP_RETRY_MS`. -/
def FILE_CLEANUP_RETRY_MS : Millis := 30000

/-- A row of `file_cleanup_queue`. -/
structure CleanupRow where
  storageKey : String
  deleteAfter : Seconds
  processAfter : Seconds
  attempts : ℕ
  lastError : Option String
  deriving DecidableEq

/-- What a sweep reads of a row. -/
structure PageRow where
  storageKey : String
  deleteAfter : Seconds
  deriving DecidableEq

/-- What becomes of a deletion of objects. -/
inductive StorageAnswer
  | unsupported
  | threw (message : String)
  | deletedAll
  | deleted (keys : List String)

/-- Where a sweep is. -/
inductive Phase
  | selecting
  | deleting (page : List PageRow)
  | marking (remaining : List String) (message : String) (done : Option (List PageRow))
  | settling (settled deferred : List PageRow)
  | deferring (count : ℕ) (deferred : List PageRow)
  | returned (settled : ℕ)
  | threw
  deriving DecidableEq

/-- A sweep: of one page, or of all that are due. -/
structure Sweep where
  selects : String → Bool
  limit : ℕ
  repeats : Bool
  now : Millis
  phase : Phase

/-- `drainFileCleanup`. -/
def drainFileCleanup (now : Millis) (limit : Option ℕ) : Sweep where
  selects _ := true
  limit := max 1 (min (limit.getD DEFAULT_FILE_CLEANUP_LIMIT) MAX_FILE_CLEANUP_LIMIT)
  repeats := false
  now := now
  phase := .selecting

/-- `deleteQueuedWorkspaceObjects`; which storage keys are those of the workspaces, `LIKE` says. -/
def deleteQueuedWorkspaceObjects (now : Millis) (like : String → Bool) : Sweep where
  selects := like
  limit := MAX_FILE_CLEANUP_LIMIT
  repeats := true
  now := now
  phase := .selecting

/-- What has happened: tombstones were queued, pages read, deletions reported, and tombstones
removed. -/
inductive Effect
  | enqueued (storageKey : String) (deleteAfter : Seconds)
  | read (i : ℕ) (page : List PageRow)
  | reported (i : ℕ) (keys : List String)
  | removed (i : ℕ) (row : CleanupRow)
  deriving DecidableEq

structure System where
  queue : List CleanupRow
  sweeps : List Sweep
  log : List Effect

/-- What can happen: a file is deleted, a sweep is begun, and a sweep goes on, which involves either
the database or the storage. -/
inductive Event
  | enqueue (storageKey : String) (uploadExpiresAt : Option Seconds) (clock : Seconds)
  | begin (sweep : Sweep)
  | query (i : ℕ) (reply : Reply)
  | storage (i : ℕ) (answer : StorageAnswer)

namespace Sweep

variable (sweep : Sweep)

def move (phase : Phase) : Sweep := { sweep with phase }

/-- Is the row due? -/
def due (row : CleanupRow) : Bool :=
  sweep.selects row.storageKey && decide (row.processAfter ≤ toSeconds sweep.now)

/-- The order of a page. -/
def pageLe (row row' : CleanupRow) : Prop :=
  row.processAfter < row'.processAfter ∨
    row.processAfter = row'.processAfter ∧ row.storageKey ≤ row'.storageKey

instance : DecidableRel pageLe := fun row row' =>
  inferInstanceAs (Decidable (row.processAfter < row'.processAfter ∨
    row.processAfter = row'.processAfter ∧ row.storageKey ≤ row'.storageKey))

/-- A page of rows that are due. -/
def page (queue : List CleanupRow) : List PageRow :=
  (((queue.filter sweep.due).insertionSort pageLe).take sweep.limit).map fun row =>
    ⟨row.storageKey, row.deleteAfter⟩

/-- May the tombstone be removed? -/
def expired (row : PageRow) : Bool := decide (toDate row.deleteAfter ≤ sweep.now)

/-- The sweep has worked off a page: it returns, or goes on to the next one. -/
def next (settled : ℕ) (progressed : Bool) : Sweep :=
  if sweep.repeats then sweep.move (if progressed then .selecting else .returned 0)
  else sweep.move (.returned settled)

/-- What is left to do of a page when some tombstones have been settled. -/
def deferOr (count : ℕ) (deferred : List PageRow) : Sweep :=
  if deferred = [] then sweep.next count true else sweep.move (.deferring count deferred)

/-- What is to be done of the rows whose objects are deleted. -/
def settle (done : List PageRow) : Sweep :=
  let settled := done.filter sweep.expired
  let deferred := done.filter (!sweep.expired ·)
  if settled = [] then sweep.deferOr 0 deferred else sweep.move (.settling settled deferred)

/-- What follows the deletion of objects. -/
def reported (page : List PageRow) : StorageAnswer → Sweep
  | .unsupported => sweep.move (.marking (page.map PageRow.storageKey)
      "The configured file storage cannot delete workspace objects" none)
  | .threw message => sweep.move (.marking (page.map PageRow.storageKey) message none)
  | .deletedAll => sweep.settle page
  | .deleted keys =>
    let remaining := (page.map PageRow.storageKey).filter (!keys.contains ·)
    let done := page.filter (keys.contains ·.storageKey)
    if remaining = [] then sweep.settle done
    else sweep.move (.marking remaining "File storage deleted part of the batch"
      (if keys = [] then none else some done))

end Sweep

namespace System

variable (s : System)

/-- Nothing is queued. -/
def start : System := ⟨[], [], []⟩

def note (e : Effect) : System := { s with log := e :: s.log }

/-- When the last upload capability of a file has expired, at the latest. -/
def deadline (uploadExpiresAt : Option Seconds) (clock : Seconds) : Seconds :=
  max clock (uploadExpiresAt.getD (clock + 3600))

/-- The tombstone of a key is written, or its deadline put off. -/
def upsert (queue : List CleanupRow) (storageKey : String) (deleteAfter clock : Seconds) :
    List CleanupRow :=
  if queue.any (·.storageKey == storageKey) then
    queue.map fun row =>
      if row.storageKey = storageKey then
        { row with deleteAfter := max row.deleteAfter deleteAfter }
      else row
  else queue ++ [⟨storageKey, deleteAfter, clock, 0, none⟩]

/-- The trigger `files_enqueue_object_cleanup`. -/
def enqueue (storageKey : String) (uploadExpiresAt : Option Seconds) (clock : Seconds) : System :=
  { s with queue := upsert s.queue storageKey (deadline uploadExpiresAt clock) clock }.note
    (.enqueued storageKey (deadline uploadExpiresAt clock))

/-- A sweep goes on. -/
def setSweep (i : ℕ) (sweep : Sweep) : System := { s with sweeps := s.sweeps.set i sweep }

/-- The rows of some keys are written. -/
def update (keys : List String) (f : CleanupRow → CleanupRow) : System :=
  { s with queue := s.queue.map fun row => if row.storageKey ∈ keys then f row else row }

/-- `markCleanupFailure`, of a sweep that read the clock at `now`. -/
def mark (keys : List String) (message : String) (now : Millis) : System :=
  s.update keys fun row =>
    { row with
      attempts := row.attempts + 1
      lastError := some (String.ofList (message.toList.take 2000))
      processAfter := toSeconds (now + FILE_CLEANUP_RETRY_MS) }

/-- The tombstones are kept for the last deletion. -/
def defer (keys : List String) : System :=
  s.update keys fun row =>
    { row with
      attempts := row.attempts + 1
      lastError := none
      processAfter := row.deleteAfter }

/-- The tombstones are removed. -/
def remove (i : ℕ) (keys : List String) : System :=
  { s with
    queue := s.queue.filter fun row => decide (row.storageKey ∉ keys)
    log := (s.queue.filter fun row => decide (row.storageKey ∈ keys)).map (.removed i) ++ s.log }

/-- An effect on the queue, unless the database refuses. -/
def unlessRefused (reply : Reply) (s' : System) : System :=
  if reply = .refused then s else s'

/-- A query of a sweep: none if it has none to make. -/
def query (i : ℕ) (sweep : Sweep) (reply : Reply) : Option System :=
  match sweep.phase with
  | .selecting =>
    some (if reply = .answered then
      let page := sweep.page s.queue
      (if page = [] then s.setSweep i (sweep.move (.returned 0))
        else s.setSweep i (sweep.move (.deleting page))).note (.read i page)
    else s.setSweep i (sweep.move .threw))
  | .marking remaining message done =>
    let marked := s.unlessRefused reply (s.mark remaining message sweep.now)
    some (marked.setSweep i (match done with
      | none => sweep.next 0 (reply == .answered)
      | some done => sweep.settle done))
  | .settling settled deferred =>
    let removed := s.unlessRefused reply (s.remove i (settled.map PageRow.storageKey))
    some (removed.setSweep i
      (if reply = .answered then sweep.deferOr settled.length deferred else sweep.move .threw))
  | .deferring count deferred =>
    let kept := s.unlessRefused reply (s.defer (deferred.map PageRow.storageKey))
    some (kept.setSweep i
      (if reply = .answered then sweep.next count true else sweep.move .threw))
  | _ => none

/-- What the storage reports to have deleted. -/
def reportedKeys (page : List PageRow) : StorageAnswer → List String
  | .unsupported | .threw _ => []
  | .deletedAll => page.map PageRow.storageKey
  | .deleted keys => keys

/-- One event: none where it cannot happen. -/
def step : Event → Option System
  | .enqueue storageKey uploadExpiresAt clock => some (s.enqueue storageKey uploadExpiresAt clock)
  | .begin sweep =>
    if sweep.phase = .selecting then some { s with sweeps := s.sweeps ++ [sweep] } else none
  | .query i reply => (s.sweeps[i]?).bind fun sweep => s.query i sweep reply
  | .storage i answer =>
    (s.sweeps[i]?).bind fun sweep =>
      match sweep.phase with
      | .deleting page => some ((s.setSweep i (sweep.reported page answer)).note
          (.reported i (reportedKeys page answer)))
      | _ => none

end System

end Cleanup
