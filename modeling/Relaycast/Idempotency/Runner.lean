import Relaycast.Reactive.Reply
import Relaycast.Reactive.Run
import Relaycast.Relational.Timestamp
import Relaycast.Script.Text

/-!
# Idempotent requests

A request that carries an idempotency key is run by `runIdempotent` over a store of keys and values:
its result is recorded for a day, and a request with the same key is answered with the record.  The
store has no compare-and-set.  A lock, which is another entry, keeps most concurrent requests with
one key from running their operations both; it is best effort.

Each reading, writing and deletion of an entry is an event of its own, and can fail: before it takes
effect, or after.  The two entries of one storage key are modelled; other keys are independent.
-/

namespace Idempotency

open Script Relational Reactive

/-- `IDEMPOTENCY_TTL_SECONDS`. -/
def IDEMPOTENCY_TTL_SECONDS : Seconds := 24 * 60 * 60

/-- `IDEMPOTENCY_LOCK_TTL_SECONDS`. -/
def IDEMPOTENCY_LOCK_TTL_SECONDS : Seconds := 30

/-- `IDEMPOTENCY_MIN_RECORD_TTL_SECONDS`. -/
def IDEMPOTENCY_MIN_RECORD_TTL_SECONDS : Seconds := 60

/-- `StoredIdempotencyRecord`. -/
structure StoredIdempotencyRecord (T : Type) where
  status : ℕ
  data : T
  fingerprint : Option String
  fingerprints : List String
  deriving DecidableEq

/-- `RunIdempotentOptions`, but for the operation and the names of the key. -/
structure RunIdempotentOptions (T : Type) where
  keyed : Bool
  hasKv : Bool
  status : ℕ := 201
  fingerprint : Option String := none
  storageFingerprint : Option String := none
  compatibleFingerprints : List String := []
  ttlSeconds : Seconds := IDEMPOTENCY_TTL_SECONDS
  ttlSecondsForResult : T → Option Seconds := fun _ => none
  requireKv : Bool := false
  requireKvRead : Bool := false
  requireFingerprint : Bool := false

/-- How a request ends. -/
inductive Outcome (T : Type)
  | replayed (status : ℕ) (data : T)
  | fresh (status : ℕ) (data : T)
  | keyRequired
  | keyReused
  | inProgress
  | unavailable
  | threw
  deriving DecidableEq

/-- `fingerprintMatches`. -/
def fingerprintMatches (stored : Option String) (storedCompatible : List String)
    (current : Option String) (compatible : List String) : Bool :=
  match stored, current with
  | some stored, some current =>
    stored == "" || current == "" ||
      (stored :: storedCompatible).any fun candidate => (current :: compatible).contains candidate
  | _, _ => true

variable {T : Type}

namespace RunIdempotentOptions

variable (o : RunIdempotentOptions T)

/-- Must the store be read and the lock be written before the operation? -/
def failClosed : Bool := o.requireKv || o.requireKvRead

/-- `replayOf`. -/
def replayOf (record : StoredIdempotencyRecord T) : Outcome T :=
  if (o.requireFingerprint && !truthy record.fingerprint) ||
      !fingerprintMatches record.fingerprint record.fingerprints o.fingerprint
        o.compatibleFingerprints then
    .keyReused
  else .replayed (if record.status = 0 then o.status else record.status) record.data

/-- The record of a result. -/
def recordOf (strip : T → T) (data : T) : StoredIdempotencyRecord T where
  status := o.status
  data := strip data
  fingerprint := o.storageFingerprint.or o.fingerprint
  fingerprints :=
    if truthy o.fingerprint && truthy o.storageFingerprint &&
        o.fingerprint != o.storageFingerprint then
      o.fingerprint.toList
    else []

/-- How long the record of a result is kept. -/
def resultTtlSeconds (data : T) : Seconds := (o.ttlSecondsForResult data).getD o.ttlSeconds

end RunIdempotentOptions

/-! ## The store -/

/-- The entries of a storage key: the record and the lock, each with its expiry. -/
structure Kv (T : Type) where
  record : Option (StoredIdempotencyRecord T × Millis)
  lock : Option Millis

namespace Kv

variable (kv : Kv T) (now : Millis) (reply : Reply)

/-- The record, unless it has expired. -/
def getRecord : Option (StoredIdempotencyRecord T) :=
  (kv.record.filter fun entry => decide (now < entry.2)).map Prod.fst

/-- The lock, unless it has expired. -/
def getLock : Bool := kv.lock.any fun expiresAt => decide (now < expiresAt)

/-- The record is written, unless the store refuses. -/
def putRecord (record : StoredIdempotencyRecord T) (ttl : Seconds) : Kv T :=
  if reply = .refused then kv else { kv with record := some (record, now + toDate ttl) }

/-- The lock is written, unless the store refuses. -/
def putLock : Kv T :=
  if reply = .refused then kv
  else { kv with lock := some (now + toDate IDEMPOTENCY_LOCK_TTL_SECONDS) }

/-- The lock is deleted, unless the store refuses. -/
def deleteLock : Kv T := if reply = .refused then kv else { kv with lock := none }

end Kv

/-! ## Requests -/

/-- Where a request is.  It reads both entries at once; it holds the lock from `rechecking` on. -/
inductive Phase (T : Type)
  | started
  | reading (record : Option (Option (Option (StoredIdempotencyRecord T))))
      (lock : Option (Option Bool))
  | contended
  | locking
  | rechecking
  | unlocking
  | operating (protect : Bool)
  | storing (data : T)
  | releasing (data : T)
  | dropping (data : T)
  | undoing
  | done (outcome : Outcome T)
  deriving DecidableEq

/-- A request, and what has happened to it: its operation has run, an operation of the store has
failed before that, a record was found, none was found once the lock was written, and the lock it
wrote may still be there when it is done. -/
structure Call (T : Type) where
  options : RunIdempotentOptions T
  phase : Phase T
  ran : Bool
  failed : Bool
  found : Bool
  checked : Bool
  leaves : Bool

/-- What a request does next. -/
inductive Action (T : Type)
  | begin
  | getRecord (reply : Reply)
  | getLock (reply : Reply)
  | proceed (reply : Reply)
  | operate (result : Option T)

namespace Call

variable (c : Call T)

/-- A request as it arrives. -/
def arrive (options : RunIdempotentOptions T) : Call T :=
  ⟨options, .started, false, false, false, false, false⟩

def move (phase : Phase T) : Call T := { c with phase }

/-- The operation runs, under the lock or not. -/
def run (protect : Bool) : Call T := { c with phase := .operating protect, ran := true }

/-- A record was found. -/
def replay (record : StoredIdempotencyRecord T) : Call T :=
  { c with phase := .done (c.options.replayOf record), found := true }

/-- The store has failed: without it the operation is run, or not. -/
def degrade : Call T :=
  let c := { c with failed := true }
  if c.options.failClosed then c.move (.done .unavailable) else c.run false

/-- Both entries have been read. -/
def decide (record : Option (Option (StoredIdempotencyRecord T))) (lock : Option Bool) : Call T :=
  match record, lock with
  | some (some record), _ => c.replay record
  | none, _ => c.degrade
  | some none, none => c.degrade
  | some none, some true => c.move .contended
  | some none, some false => c.move .locking

/-- The reads that have been answered. -/
def settle (record : Option (Option (Option (StoredIdempotencyRecord T))))
    (lock : Option (Option Bool)) : Call T :=
  match record, lock with
  | some record, some lock => c.decide record lock
  | _, _ => c.move (.reading record lock)

/-- The answer, with the result of the operation, of a request whose record or lock was lost. -/
def answerUnstored (data : T) : Call T :=
  c.move (.done (if c.options.requireKv then .unavailable else .fresh c.options.status data))

/-- Without a key, or without a store, the operation is run unprotected, or not at all. -/
def begin : Call T :=
  if !c.options.keyed then
    if c.options.requireKv then c.move (.done .keyRequired) else c.run false
  else if !c.options.hasKv then
    if c.options.failClosed then c.move (.done .unavailable) else c.run false
  else c.move (.reading none none)

section Act

variable (strip : T → T) (now : Millis) (kv : Kv T)

/-- The operation of the store that the request waits for. -/
def proceed (reply : Reply) : Option (Kv T × Call T) :=
  match c.phase with
  | .contended =>
    some (kv, if reply = .answered then
      match kv.getRecord now with
      | some record => c.replay record
      | none => c.move (.done .inProgress)
    else c.degrade)
  | .locking =>
    some (kv.putLock now reply, if reply = .answered then c.move .rechecking
      else { c with leaves := c.leaves || reply == Reply.lost }.degrade)
  | .rechecking =>
    some (kv, if reply = .answered then
      match kv.getRecord now with
      | some record => { c with leaves := true }.replay record
      | none => { c with checked := true }.run true
    else { c with failed := true }.move .unlocking)
  | .unlocking =>
    some (kv.deleteLock reply, { c with leaves := c.leaves || reply == Reply.refused }.degrade)
  | .storing data =>
    some (kv.putRecord now reply (c.options.recordOf strip data) (c.options.resultTtlSeconds data),
      if reply = .answered then
        { c with leaves := true }.move (.done (.fresh c.options.status data))
      else { c with leaves := c.leaves || reply == Reply.lost }.move (.dropping data))
  | .releasing data =>
    some (kv.deleteLock reply, if reply = .answered then
        c.move (.done (.fresh c.options.status data))
      else c.move (.dropping data))
  | .dropping data =>
    some (kv.deleteLock reply,
      { c with leaves := c.leaves || reply == Reply.refused }.answerUnstored data)
  | .undoing =>
    some (kv.deleteLock reply,
      { c with leaves := c.leaves || reply == Reply.refused }.move (.done .threw))
  | _ => none

/-- What a request does next, if it can. -/
def act : Action T → Option (Kv T × Call T)
  | .begin =>
    match c.phase with
    | .started => some (kv, c.begin)
    | _ => none
  | .getRecord reply =>
    match c.phase with
    | .reading none lock =>
      let record := if reply = .answered then some (kv.getRecord now) else none
      some (kv, c.settle (some record) lock)
    | _ => none
  | .getLock reply =>
    match c.phase with
    | .reading record none =>
      let lock := if reply = .answered then some (kv.getLock now) else none
      some (kv, c.settle record (some lock))
    | _ => none
  | .proceed reply => c.proceed strip now kv reply
  | .operate result =>
    match c.phase, result with
    | .operating true, some data =>
      some (kv, if IDEMPOTENCY_MIN_RECORD_TTL_SECONDS ≤ c.options.resultTtlSeconds data then
        c.move (.storing data) else c.move (.releasing data))
    | .operating true, none => some (kv, c.move .undoing)
    | .operating false, some data => some (kv, c.move (.done (.fresh c.options.status data)))
    | .operating false, none => some (kv, c.move (.done .threw))
    | _, _ => none

end Act

end Call

/-! ## The system -/

/-- The requests with one storage key, and the results of the operations that were completed. -/
structure System (T : Type) where
  clock : Millis
  kv : Kv T
  calls : List (Call T)
  completed : List (RunIdempotentOptions T × T)

inductive Event (T : Type)
  | tick (now : Millis)
  | arrive (options : RunIdempotentOptions T)
  | act (i : ℕ) (action : Action T)

namespace System

/-- No request has arrived. -/
def start : System T := ⟨0, ⟨none, none⟩, [], []⟩

/-- The result of an operation that is completed by the action. -/
def result (c : Call T) : Action T → List (RunIdempotentOptions T × T)
  | .operate (some data) => [(c.options, data)]
  | _ => []

/-- One event: none where it cannot happen. -/
def step (strip : T → T) (s : System T) : Event T → Option (System T)
  | .tick now => some { s with clock := now }
  | .arrive options => some { s with calls := s.calls ++ [.arrive options] }
  | .act i action =>
    (s.calls[i]?).bind fun c => (c.act strip s.clock s.kv action).map fun (kv, c') =>
      { s with kv, calls := s.calls.set i c', completed := result c action ++ s.completed }

end System

end Idempotency
