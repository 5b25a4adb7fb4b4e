import Mathlib.Data.Int.Notation
import Mathlib.Data.Rat.Defs
import Relaycast.Interleaving.History
import Relaycast.Relational.Table
import Relaycast.Script.Text

/-!
# Routing by skill and its circuit breaker

Callers report how the agents they were routed to did.  A failure raises a counter beside two
totals, and from a threshold on it opens the circuit of the agent until a cooldown has passed; a
success closes it and starts the counter anew.  `routeBySkill` picks the best agent whose circuit
is not open.

The counter is written as a value that was computed from an earlier read, the totals are
incremented where they are stored.  The time until which a circuit is open is a `Date` where it is
computed, whole seconds where it is stored, and what SQLite's `unixepoch` makes of these seconds
where it is compared.

The arithmetic of the scores is a parameter (`Scoring`), and so are the ranks of the full-text
indexes, which the outside world contributes.  The clock may be set to anything at any time.
-/

namespace Routing

open Relational Interleaving Script

abbrev WorkspaceId := String
abbrev AgentId := String

/-- Milliseconds since 1970, as a `Date` holds them. -/
abbrev Instant := ℤ

/-- What a timestamp column stores of a `Date`: `Math.floor(value.getTime() / 1000)`. -/
def epochSeconds (at' : Instant) : ℤ := at' / 1000

/-- SQLite's `unixepoch` of an integer, which it reads as a Julian day. -/
def unixepoch (day : ℤ) : Option ℤ :=
  if 0 ≤ day ∧ day ≤ 5373484 then some (86400 * day - 210866760000) else none

/-! ## Tables -/

/-- A row of `agents`. -/
structure AgentRow where
  id : AgentId
  workspaceId : WorkspaceId
  name : String
  status : String
  lastSeen : ℤ
  deriving DecidableEq

instance : Keyed AgentRow where
  Key := AgentId × WorkspaceId × String
  key r := (r.id, r.workspaceId, r.name)
  clash k k' := k.1 == k'.1 || k.2 == k'.2
  clash_comm k k' := by rw [Bool.beq_comm (a := k.1), Bool.beq_comm (a := k.2)]

/-- A row of `directory_skills` with its row of `directory_agents`. -/
structure DirectorySkill where
  workspaceId : WorkspaceId
  sourceAgentId : Option AgentId
  status : String
  directoryAgentId : String
  skillId : String
  ratingSum : ℕ
  ratingCount : ℕ
  skillName : String
  skillDescription : Option String
  skillTags : String
  agentTags : String
  position : ℕ
  deriving DecidableEq

/-- A row of `routing_configs`; the weights as they are stored. -/
structure RoutingConfigRow where
  workspaceId : WorkspaceId
  weights : String
  circuitBreakerThreshold : ℕ
  circuitBreakerCooldownSeconds : ℕ
  deriving DecidableEq

/-- The primary key of `routing_failures`. -/
structure FailuresKey where
  workspaceId : WorkspaceId
  agentId : AgentId
  deriving DecidableEq

/-- A row of `routing_failures`. -/
structure RoutingFailures where
  of : FailuresKey
  consecutiveFailures : ℕ
  totalFailures : ℕ
  totalSuccesses : ℕ
  lastFailureAt : Option ℤ
  lastSuccessAt : Option ℤ
  circuitOpenUntil : Option ℤ
  lastError : Option String
  updatedAt : ℤ
  deriving DecidableEq

instance : Keyed RoutingFailures where
  Key := FailuresKey
  key := RoutingFailures.of
  clash k k' := k == k'
  clash_comm _ _ := Bool.beq_comm

/-- The tables that routing reads and writes, and the clock. -/
structure Store where
  agents : Table AgentRow
  directory : List DirectorySkill
  routingConfigs : List RoutingConfigRow
  routingFailures : Table RoutingFailures
  clock : Instant

/-- The failures of an agent, if any were recorded. -/
def Store.failures? (s : Store) (k : FailuresKey) : Option RoutingFailures :=
  s.routingFailures.rows.find? fun r => r.of == k

/-! ## Configuration -/

/-- `RoutingConfig`, the weights as they are stored; none are the default ones. -/
structure RoutingConfig where
  weights : Option String
  circuitBreakerThreshold : ℕ
  circuitBreakerCooldownSeconds : ℕ
  deriving DecidableEq

def DEFAULT_THRESHOLD : ℕ := 3
def DEFAULT_COOLDOWN_SECONDS : ℕ := 300

/-- What `getRoutingConfig` makes of the row of a workspace. -/
def routingConfig (row : Option RoutingConfigRow) : RoutingConfig where
  weights := row.map (·.weights)
  circuitBreakerThreshold := (row.map (·.circuitBreakerThreshold)).getD DEFAULT_THRESHOLD
  circuitBreakerCooldownSeconds :=
    (row.map (·.circuitBreakerCooldownSeconds)).getD DEFAULT_COOLDOWN_SECONDS

/-- The configuration of a workspace. -/
def Store.config (s : Store) (workspaceId : WorkspaceId) : RoutingConfig :=
  routingConfig (s.routingConfigs.find? fun r => r.workspaceId == workspaceId)

/-! ## Candidates -/

/-- `CandidateRow`, with the ids that its ranks are looked up by. -/
structure CandidateRow where
  agentId : AgentId
  agentName : String
  agentStatus : String
  agentLastSeen : Option ℤ
  directoryStatus : String
  directoryAgentId : String
  skillId : String
  ratingSum : ℕ
  ratingCount : ℕ
  skillName : String
  skillDescription : Option String
  skillTags : String
  agentTags : String
  position : ℕ
  skillRank : Option ℚ
  agentRank : Option ℚ
  consecutiveFailures : Option ℕ
  totalFailures : Option ℕ
  totalSuccesses : Option ℕ
  circuitOpenUntil : Option ℤ
  deriving DecidableEq

/-- The joins of one entry of the directory; the ranks come from elsewhere. -/
def Store.candidate? (s : Store) (workspaceId : WorkspaceId) (d : DirectorySkill) :
    Option CandidateRow := do
  let a ← s.agents.rows.find? fun a => d.sourceAgentId == some a.id
  let failures := s.failures? ⟨workspaceId, a.id⟩
  if d.workspaceId = workspaceId ∧ d.status = "active" ∧ a.status ≠ "offline" then
    some
      { agentId := a.id
        agentName := a.name
        agentStatus := a.status
        agentLastSeen := unixepoch a.lastSeen
        directoryStatus := d.status
        directoryAgentId := d.directoryAgentId
        skillId := d.skillId
        ratingSum := d.ratingSum
        ratingCount := d.ratingCount
        skillName := d.skillName
        skillDescription := d.skillDescription
        skillTags := d.skillTags
        agentTags := d.agentTags
        position := d.position
        skillRank := none
        agentRank := none
        consecutiveFailures := failures.map (·.consecutiveFailures)
        totalFailures := failures.map (·.totalFailures)
        totalSuccesses := failures.map (·.totalSuccesses)
        circuitOpenUntil := failures.bind fun f => f.circuitOpenUntil.bind unixepoch }
  else none

/-- `ORDER BY a.name ASC, ds.position ASC`. -/
def CandidateRow.inOrder (r r' : CandidateRow) : Bool :=
  decide (r.agentName < r'.agentName) ||
    (r.agentName == r'.agentName && decide (r.position ≤ r'.position))

/-- The candidates of a workspace. -/
def Store.candidates (s : Store) (workspaceId : WorkspaceId) : List CandidateRow :=
  (s.directory.filterMap (s.candidate? workspaceId)).mergeSort CandidateRow.inOrder

/-- The best rank of each skill and of each entry of the directory. -/
structure Ranks where
  ofSkill : List (String × ℚ)
  ofAgent : List (String × ℚ)

/-- The ranks of a candidate. -/
def CandidateRow.ranked (ranks : Ranks) (r : CandidateRow) : CandidateRow :=
  { r with
    skillRank := ranks.ofSkill.lookup r.skillId
    agentRank := ranks.ofAgent.lookup r.directoryAgentId }

/-- The functions that compute with numbers of the runtime, and the collation of names. -/
structure Scoring where
  skillMatchScore : String → CandidateRow → ℚ
  weightedScore : Option String → String → String → Instant → CandidateRow → ℚ
  toFixed : ℕ → ℚ → ℚ
  localeCompare : String → String → Ordering

/-! ## Statements -/

/-- What a failure writes: the row to insert, and of it what an update sets. -/
structure FailureWrite where
  of : FailuresKey
  nextConsecutiveFailures : ℕ
  existingFailures : ℕ
  existingSuccesses : ℕ
  circuitOpenUntil : Option Instant
  lastError : Option String
  now : Instant
  deriving DecidableEq

inductive Stmt
  /-- `new Date()`. -/
  | newDate
  | findAgent (workspaceId : WorkspaceId) (name : String)
  | findConfig (workspaceId : WorkspaceId)
  | findFailures (of : FailuresKey)
  | upsertSuccess (of : FailuresKey) (now : Instant)
  | upsertFailure (write : FailureWrite)
  /-- The two queries of the full-text indexes. -/
  | findRanks (workspaceId : WorkspaceId) (skill message : String)
  | findCandidates (workspaceId : WorkspaceId)

abbrev Stmt.Answer : Stmt → Type
  | .findRanks .. => Ranks
  | _ => Unit

abbrev Stmt.Reply : Stmt → Type
  | .newDate => Instant
  | .findAgent .. => Option AgentId
  | .findConfig _ => Option RoutingConfigRow
  | .findFailures _ => Option RoutingFailures
  | .upsertSuccess .. | .upsertFailure _ => Unit
  | .findRanks .. => Ranks
  | .findCandidates _ => List CandidateRow

/-- The language of routing. -/
abbrev lang : Language where
  Stmt := Stmt
  Answer := Stmt.Answer
  Reply := Stmt.Reply

/-- Issue one statement and return its reply. -/
abbrev await (q : Stmt) : Prog lang q.Reply := Prog.ask (L := lang) q

/-- `INSERT … ON CONFLICT DO UPDATE SET`. -/
def upsert (T : Table RoutingFailures) (r : RoutingFailures)
    (set : RoutingFailures → RoutingFailures) (hset : ∀ r, (set r).of = r.of) :
    Table RoutingFailures :=
  if h : T.conflicts r = false then T.insert r h
  else T.update (fun s => s.of == r.of) set hset

/-- The row `recordRoutingSuccess` inserts. -/
def insertedSuccess (k : FailuresKey) (now : Instant) : RoutingFailures where
  of := k
  consecutiveFailures := 0
  totalFailures := 0
  totalSuccesses := 1
  lastFailureAt := none
  lastSuccessAt := some (epochSeconds now)
  circuitOpenUntil := none
  lastError := none
  updatedAt := epochSeconds now

/-- What `recordRoutingSuccess` sets. -/
def setSuccess (now : Instant) (r : RoutingFailures) : RoutingFailures :=
  { r with
    consecutiveFailures := 0
    totalSuccesses := r.totalSuccesses + 1
    lastSuccessAt := some (epochSeconds now)
    circuitOpenUntil := none
    lastError := none
    updatedAt := epochSeconds now }

/-- The row `recordRoutingFailure` inserts. -/
def FailureWrite.inserted (f : FailureWrite) : RoutingFailures where
  of := f.of
  consecutiveFailures := f.nextConsecutiveFailures
  totalFailures := f.existingFailures + 1
  totalSuccesses := f.existingSuccesses
  lastFailureAt := some (epochSeconds f.now)
  lastSuccessAt := none
  circuitOpenUntil := f.circuitOpenUntil.map epochSeconds
  lastError := f.lastError
  updatedAt := epochSeconds f.now

/-- What `recordRoutingFailure` sets. -/
def FailureWrite.set (f : FailureWrite) (r : RoutingFailures) : RoutingFailures :=
  { r with
    consecutiveFailures := f.nextConsecutiveFailures
    totalFailures := r.totalFailures + 1
    lastFailureAt := some (epochSeconds f.now)
    circuitOpenUntil := f.circuitOpenUntil.map epochSeconds
    lastError := f.lastError
    updatedAt := epochSeconds f.now }

/-- What a statement replies, and the store it leaves. -/
def run : (q : Stmt) → q.Answer → Store → q.Reply × Store
  | .newDate, _, s => (s.clock, s)
  | .findAgent workspaceId name, _, s =>
    let found := s.agents.rows.find? fun a => a.workspaceId == workspaceId && a.name == name
    (found.map (·.id), s)
  | .findConfig workspaceId, _, s =>
    (s.routingConfigs.find? fun r => r.workspaceId == workspaceId, s)
  | .findFailures k, _, s => (s.failures? k, s)
  | .upsertSuccess k now, _, s =>
    ((), { s with
      routingFailures :=
        upsert s.routingFailures (insertedSuccess k now) (setSuccess now) fun _ => rfl })
  | .upsertFailure f, _, s =>
    ((), { s with
      routingFailures := upsert s.routingFailures f.inserted f.set fun _ => rfl })
  | .findRanks .., ranks, s => (ranks, s)
  | .findCandidates workspaceId, _, s => (s.candidates workspaceId, s)

/-- The store of routing; its clock may be set to anything. -/
def machine : Machine lang Store where
  run := run
  Drift := Instant
  drift now s := { s with clock := now }

/-! ## Programs -/

/-- `codedError`. -/
structure CodedError where
  message : String
  code : String
  status : ℕ
  deriving DecidableEq

def agentNotFound (agentName : String) : CodedError :=
  ⟨"Agent \"" ++ agentName ++ "\" not found", "agent_not_found", 404⟩

def skillRequired : CodedError := ⟨"skill is required", "invalid_request", 400⟩

def noActiveAgents (skill : String) : CodedError :=
  ⟨"No active agents found for skill \"" ++ skill ++ "\"", "route_not_found", 404⟩

def noHealthyAgents (skill : String) : CodedError :=
  ⟨"No healthy agents found for skill \"" ++ skill ++ "\"", "route_not_found", 404⟩

def getRoutingConfig (workspaceId : WorkspaceId) : Prog lang RoutingConfig := do
  let row : Option RoutingConfigRow ← await (.findConfig workspaceId)
  return routingConfig row

def recordRoutingSuccess (workspaceId : WorkspaceId) (agentName : String) :
    Prog lang (Except CodedError Unit) := do
  let agent : Option AgentId ← await (.findAgent workspaceId agentName)
  match agent with
  | none => return .error (agentNotFound agentName)
  | some agentId => do
    let now : Instant ← await .newDate
    let _ : Unit ← await (.upsertSuccess ⟨workspaceId, agentId⟩ now)
    return .ok ()

/-- The time until which a circuit is open after a failure. -/
def circuitOpenUntil (config : RoutingConfig) (nextConsecutiveFailures : ℕ) (now : Instant) :
    Option Instant :=
  if config.circuitBreakerThreshold ≤ nextConsecutiveFailures then
    some (now + config.circuitBreakerCooldownSeconds * 1000)
  else none

/-- What a failure writes after `existing` was read. -/
def failureWrite (k : FailuresKey) (config : RoutingConfig) (now : Instant)
    (existing : Option RoutingFailures) (errorMessage : Option String) : FailureWrite :=
  let next := (existing.map (·.consecutiveFailures)).getD 0 + 1
  { of := k
    nextConsecutiveFailures := next
    existingFailures := (existing.map (·.totalFailures)).getD 0
    existingSuccesses := (existing.map (·.totalSuccesses)).getD 0
    circuitOpenUntil := circuitOpenUntil config next now
    lastError := errorMessage.filter (· != "")
    now := now }

/-- `recordRoutingFailure`: the time until which the circuit is open. -/
def recordRoutingFailure (workspaceId : WorkspaceId) (agentName : String)
    (errorMessage : Option String) : Prog lang (Except CodedError (Option Instant)) := do
  let agent : Option AgentId ← await (.findAgent workspaceId agentName)
  match agent with
  | none => return .error (agentNotFound agentName)
  | some agentId => do
    let config ← getRoutingConfig workspaceId
    let now : Instant ← await .newDate
    let existing : Option RoutingFailures ← await (.findFailures ⟨workspaceId, agentId⟩)
    let write := failureWrite ⟨workspaceId, agentId⟩ config now existing errorMessage
    let _ : Unit ← await (.upsertFailure write)
    return .ok write.circuitOpenUntil

/-- What `routeBySkill` returns. -/
structure Route where
  agentName : String
  score : ℚ
  fallback : Bool
  deriving DecidableEq

/-- A candidate with its scores. -/
structure Scored where
  row : CandidateRow
  exactSkill : ℚ
  weightedScore : ℚ

/-- Is the circuit of the candidate closed, as far as its row tells? -/
def CandidateRow.isHealthy (now : Instant) (r : CandidateRow) : Bool :=
  match r.circuitOpenUntil with
  | none => true
  | some openUntil => decide (openUntil ≤ epochSeconds now)

/-- The number `0.2`. -/
def minimumScore : ℚ := 3602879701896397 / 18014398509481984

/-- The number `0.999`. -/
def exactEnough : ℚ := 8998192055486251 / 9007199254740992

section Choice

variable (F : Scoring)

/-- The order of the candidates: the better first. -/
def Scored.inOrder (left right : Scored) : Bool :=
  if left.weightedScore ≠ right.weightedScore then
    decide (right.weightedScore < left.weightedScore)
  else if left.exactSkill ≠ right.exactSkill then decide (right.exactSkill < left.exactSkill)
  else F.localeCompare left.row.agentName right.row.agentName != .gt

/-- The scores of a candidate. -/
def scored (config : RoutingConfig) (skill message : String) (now : Instant) (r : CandidateRow) :
    Scored where
  row := r
  exactSkill := F.skillMatchScore skill r
  weightedScore := F.toFixed 6 (F.weightedScore config.weights skill message now r)

/-- The best of the healthy candidates. -/
def best? (config : RoutingConfig) (skill message : String) (now : Instant)
    (rows : List CandidateRow) : Option Scored :=
  let healthy := (rows.filter (·.isHealthy now)).map (scored F config skill message now)
  let matching := healthy.filter fun c =>
    decide (0 < c.exactSkill) || decide (minimumScore ≤ c.weightedScore)
  (matching.mergeSort (Scored.inOrder F)).head?

/-- The answer of `routeBySkill`, from what it has read. -/
def choose (config : RoutingConfig) (skill message : String) (now : Instant)
    (rows : List CandidateRow) : Except CodedError Route :=
  match best? F config skill message now rows with
  | none => .error (noHealthyAgents skill)
  | some best =>
    .ok ⟨best.row.agentName, F.toFixed 4 best.weightedScore, decide (best.exactSkill < exactEnough)⟩

/-- `routeBySkill`; a skill is missing if `normalizeText` leaves nothing of it.  Its three reads are
issued together; which of them comes first makes no difference, since only the candidates are read
from these tables. -/
def routeBySkill (workspaceId : WorkspaceId) (skill message : String) :
    Prog lang (Except CodedError Route) :=
  if isBlank skill then return .error skillRequired
  else do
    let config ← getRoutingConfig workspaceId
    let ranks : Ranks ← await (.findRanks workspaceId skill message)
    let rows : List CandidateRow ← await (.findCandidates workspaceId)
    if rows.isEmpty then return .error (noActiveAgents skill)
    else do
      let now : Instant ← await .newDate
      return choose F config skill message now (rows.map (·.ranked ranks))

end Choice

/-! ## The system -/

inductive Call
  | recordRoutingSuccess (workspaceId : WorkspaceId) (agentName : String)
  | recordRoutingFailure (workspaceId : WorkspaceId) (agentName : String)
    (errorMessage : Option String)
  | routeBySkill (workspaceId : WorkspaceId) (skill message : String)

abbrev Result : Call → Type
  | .recordRoutingSuccess .. => Except CodedError Unit
  | .recordRoutingFailure .. => Except CodedError (Option Instant)
  | .routeBySkill .. => Except CodedError Route

def body (F : Scoring) : (c : Call) → Prog lang (Result c)
  | .recordRoutingSuccess workspaceId agentName => recordRoutingSuccess workspaceId agentName
  | .recordRoutingFailure workspaceId agentName errorMessage =>
    recordRoutingFailure workspaceId agentName errorMessage
  | .routeBySkill workspaceId skill message => routeBySkill F workspaceId skill message

/-- Nothing is recorded of the agent yet, and the directory of a workspace lists agents of that
workspace. -/
structure Fresh (k : FailuresKey) (s : Store) : Prop where
  failures : s.failures? k = none
  directory : ∀ d ∈ s.directory, ∀ a ∈ s.agents, d.sourceAgentId = some a.id →
    a.workspaceId = d.workspaceId

/-- Any number of calls, from a store in which nothing is recorded of the agent. -/
def system (F : Scoring) (k : FailuresKey) : System lang Store Call Result where
  toMachine := machine
  body := body F
  init := Fresh k

end Routing
