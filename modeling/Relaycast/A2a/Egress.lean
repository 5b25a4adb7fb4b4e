import Mathlib.Data.List.Sort
import Relaycast.Interleaving.Run
import Relaycast.Relational.Table
import Relaycast.Relational.Timestamp

/-!
# The A2A egress

A direct message to an agent of another system is admitted as a row of `a2a_egress` and sent from
there by any number of workers.  A worker claims the row with a token of its own and a lease,
hands the payload to the transport, which reads the row again before each fetch, and settles the
row under its token.  Rows past the retry window are deleted, by the cleanup or when the request
key is used again.
-/

namespace A2a

open Relational Interleaving

abbrev EgressId := String
abbrev WorkspaceId := String
abbrev MessageId := String
abbrev TargetId := String
abbrev AgentId := String
abbrev Url := String

/-- A claim token, `randomUuid()`. -/
abbrev Token := ℕ

/-! ## Tables -/

/-- `a2a_egress.status`. -/
inductive Status
  | pending
  | sending
  | sent
  | failed
  deriving DecidableEq

/-- Is the row settled for good? -/
def Status.isTerminal : Status → Bool
  | sent | failed => true
  | pending | sending => false

/-- A row of `a2a_egress`. -/
structure Row where
  id : EgressId
  workspaceId : WorkspaceId
  messageId : MessageId
  targetId : TargetId
  externalUrl : Url
  payload : Option String
  status : Status
  claimToken : Option Token
  leaseUntil : Option Seconds
  attempts : ℕ
  lastError : Option String
  errorStatus : Option ℕ
  errorCode : Option String
  createdAt : Seconds
  deriving DecidableEq

instance : Keyed Row where
  Key := EgressId
  key r := r.id
  clash k k' := k == k'
  clash_comm _ _ := BEq.comm

/-- A row of `a2a_agents`. -/
structure Target where
  id : TargetId
  workspaceId : WorkspaceId
  relayAgentId : AgentId
  externalUrl : Url
  authScheme : Option String
  authCredential : Option String
  messagesSent : ℕ
  deriving DecidableEq

instance : Keyed Target where
  Key := TargetId
  key t := t.id
  clash k k' := k == k'
  clash_comm _ _ := BEq.comm

/-- The tables of the area; of `messages` and `agents` only what is stored, with its workspace.
`nextToken` is the next `randomUuid()`: no token is drawn twice. -/
structure Store where
  egress : Table Row
  targets : Table Target
  messages : List (MessageId × WorkspaceId)
  agents : List (AgentId × WorkspaceId)
  nextToken : Token

/-- An update of `a2a_egress` leaves the id alone. -/
abbrev KeepsId (f : Row → Row) : Prop := ∀ r, key (f r) = key r

namespace Store

variable (s : Store)

/-- The row with an id. -/
def row? (id : EgressId) : Option Row := s.egress.rows.find? fun r => r.id == id

/-- The source message of a row is retained. -/
def hasSource (r : Row) : Bool := s.messages.contains (r.messageId, r.workspaceId)

/-- The registration of a row's target. -/
def target? (r : Row) : Option Target :=
  s.targets.rows.find? fun t => t.id == r.targetId && t.workspaceId == r.workspaceId

/-- The agent a registration stands for is there. -/
def hasRecipient (r : Row) (t : Target) : Bool := s.agents.contains (t.relayAgentId, r.workspaceId)

/-- `EXISTS (SELECT 1 FROM a2a_agents t JOIN agents a …)`: the target is registered at the row's
endpoint. -/
def hasTarget (r : Row) : Bool :=
  s.targets.rows.any fun t => t.id == r.targetId && t.workspaceId == r.workspaceId &&
    t.externalUrl == r.externalUrl && s.agents.contains (t.relayAgentId, t.workspaceId)

/-- `UPDATE a2a_egress SET f WHERE p`. -/
def updateEgress (p : Row → Bool) (f : Row → Row) (hf : KeepsId f) : Store :=
  { s with egress := s.egress.update p f hf }

end Store

/-! ## Errors -/

/-- An error as `sendToExternalAgent` and `codedError` throw it. -/
structure Failure where
  message : String
  code : Option String
  status : Option ℕ
  retryable : Option Bool

/-- `codedError`. -/
def codedError (message code : String) (status : ℕ) : Failure :=
  ⟨message, some code, some status, none⟩

def notRetained : Failure :=
  codedError "Accepted A2A message is no longer retained" "a2a_message_not_retained" 410

def targetGone : Failure :=
  codedError "Accepted A2A target no longer registered at its original endpoint" "a2a_target_gone"
    410

def windowExpired : Failure :=
  codedError "Accepted A2A retry window expired" "a2a_egress_expired" 410

namespace Failure

variable (failure : Failure)

/-- May the row be sent again? -/
def isRetryable : Bool :=
  failure.retryable == some true || (failure.retryable != some false &&
    !failure.status.any fun status => decide (400 ≤ status) && decide (status < 500))

/-- The text the row keeps: the engine's own, never that of the upstream. -/
def storedMessage : String :=
  if failure.code == some "a2a_message_not_retained" then notRetained.message
  else if failure.code == some "a2a_target_gone" then targetGone.message
  else if failure.code == some "a2a_egress_expired" then windowExpired.message
  else "A2A transport failed for the accepted message"

/-- The error the caller gets. -/
def rethrown : Failure :=
  codedError failure.storedMessage (failure.code.getD "internal_error") (failure.status.getD 500)

end Failure

/-! ## Statements -/

/-- `A2A_EGRESS_RETRY_WINDOW_MS`, in the seconds of a column. -/
def retryWindow : Seconds := 24 * 60 * 60

/-- `expired`: a `Date.now()` at or past the end of the retry window. -/
def Row.expired (r : Row) (now : Millis) : Bool :=
  decide (toDate (r.createdAt + retryWindow) ≤ now)

/-- `lte(created_at, now - A2A_EGRESS_RETRY_WINDOW_MS)`. -/
def Row.pastWindow (r : Row) (now : Millis) : Bool :=
  decide (r.createdAt + retryWindow ≤ toSeconds now)

/-- `lte(lease_until, now)`. -/
def Row.leaseOver (r : Row) (now : Millis) : Bool :=
  r.leaseUntil.any fun until' => decide (until' ≤ toSeconds now)

/-- Has the row a lease that has not run out? -/
def Row.leased (r : Row) (now : Millis) : Bool :=
  r.leaseUntil.any fun until' => decide (toSeconds now < until')

/-- `cleanupEligible`. -/
def Row.cleanupEligible (r : Row) (now : Millis) : Bool :=
  r.pastWindow now && (r.leaseUntil.isNone || r.leaseOver now || r.status != .sending)

/-- The `WHERE` of a claim: a pending row that is due, or that can only be settled, and a sending
row whose lease is over. -/
def Store.claimable (s : Store) (now : Millis) (r : Row) : Bool :=
  (r.status == .pending && (r.leaseUntil.isNone || r.leaseOver now || r.pastWindow now ||
    !s.hasSource r || !s.hasTarget r)) ||
  (r.status == .sending && r.leaseOver now)

/-- The columns a claim sets. -/
def Row.claimed (token : Token) (now : Millis) (r : Row) : Row :=
  { r with
    status := .sending
    claimToken := some token
    leaseUntil := some (toSeconds (now + 120000))
    attempts := r.attempts + 1 }

/-- The columns a failed attempt sets. -/
def Row.failedWith (failure : Failure) (now : Millis) (r : Row) : Row :=
  { r with
    status := if failure.isRetryable then .pending else .failed
    claimToken := none
    leaseUntil := if failure.isRetryable then some (toSeconds (now + 30000)) else none
    payload := if failure.isRetryable then r.payload else none
    lastError := some failure.storedMessage
    errorStatus := some (failure.status.getD 500)
    errorCode := some (failure.code.getD "internal_error") }

/-- The columns a sent row keeps. -/
def Row.settledSent (r : Row) : Row :=
  { r with
    status := .sent, payload := none, claimToken := none, leaseUntil := none, lastError := none,
    errorStatus := none, errorCode := none }

/-- A row as `sendDm` admits it. -/
structure Admission where
  id : EgressId
  workspaceId : WorkspaceId
  messageId : MessageId
  targetId : TargetId
  externalUrl : Url
  payload : String
  createdAt : Seconds

/-- The admitted row. -/
def Admission.row (a : Admission) : Row where
  id := a.id
  workspaceId := a.workspaceId
  messageId := a.messageId
  targetId := a.targetId
  externalUrl := a.externalUrl
  payload := some a.payload
  status := .pending
  claimToken := none
  leaseUntil := none
  attempts := 0
  lastError := none
  errorStatus := none
  errorCode := none
  createdAt := a.createdAt

/-- How a fetch comes out. -/
inductive FetchOutcome
  | unavailable
  | redirect
  | rejected (status : ℕ)
  | invalidBody (transport : Bool)
  | rpcError (message : String)
  | accepted
  deriving DecidableEq

/-- What `sendToExternalAgent` makes of it. -/
def FetchOutcome.result : FetchOutcome → Except Failure Unit
  | unavailable =>
    .error ⟨"A2A transport unavailable", some "a2a_transport_unavailable", some 502, some true⟩
  | redirect =>
    .error ⟨"A2A upstream redirects are not allowed", some "a2a_redirect_forbidden", some 502,
      some false⟩
  | rejected status =>
    .error ⟨"A2A upstream returned " ++ toString status,
      some (if 500 ≤ status then "a2a_upstream_unavailable" else "a2a_upstream_rejected"),
      some (if 500 ≤ status then 502 else status), some (decide (500 ≤ status) || status == 429)⟩
  | invalidBody true =>
    .error ⟨"A2A transport unavailable", some "a2a_transport_unavailable", some 502, some true⟩
  | invalidBody false =>
    .error ⟨"Invalid A2A upstream response", some "a2a_invalid_response", some 502, some false⟩
  | rpcError message => .error ⟨message, some "a2a_jsonrpc_error", some 502, some false⟩
  | accepted => .ok ()

/-- What the recheck before a fetch reads: the row, whether its source is retained, and the
registration of its target with whether the recipient is there. -/
structure Recheck where
  intent : Row
  source : Bool
  target : Option Target
  recipient : Bool

/-- `batchLimit`. -/
def batchLimit (limit : ℤ) : ℕ := (max 1 (min 100 limit)).toNat

/-- The statements. -/
inductive Stmt
  | getEgress (id : EgressId)
  | getSource (r : Row)
  | randomUuid
  | dateNow
  | claim (id : EgressId) (token : Token)
  | recheck (id : EgressId) (token : Token)
  | fetch (url : Url) (scheme credential : Option String) (id : EgressId)
  | settleFailure (id : EgressId) (token : Token) (failure : Failure)
  | settleSent (id : EgressId) (token : Token) (targetId : TargetId)
  | cleanup (limit : ℤ)
  | expireForReuse (id : EgressId) (now : Millis)

/-- What the outside world contributes. -/
def Stmt.Answer : Stmt → Type
  | .dateNow | .claim .. | .settleFailure .. | .cleanup _ => Millis
  | .fetch .. => FetchOutcome
  | _ => Unit

/-- What each statement replies. -/
def Stmt.Reply : Stmt → Type
  | .getEgress _ | .claim .. => Option Row
  | .getSource _ => Bool
  | .randomUuid => Token
  | .dateNow => Millis
  | .recheck .. => Option Recheck
  | .fetch .. => FetchOutcome
  | .settleFailure .. | .settleSent .. => Unit
  | .cleanup _ | .expireForReuse .. => ℕ

/-- The language of the egress. -/
abbrev lang : Language where
  Stmt := Stmt
  Answer := Stmt.Answer
  Reply := Stmt.Reply

/-- Issue one statement and return its reply. -/
abbrev await (q : Stmt) : Prog lang q.Reply := Prog.ask (L := lang) q

namespace Store

variable (s : Store)

/-- A claim; the reply is what `RETURNING` gives back. -/
def claim (id : EgressId) (token : Token) (now : Millis) : Option Row × Store :=
  let hit := fun r : Row => r.id == id && s.claimable now r
  ((s.egress.rows.find? hit).map (Row.claimed token now),
    s.updateEgress hit (Row.claimed token now) fun _ => rfl)

/-- The recheck before a fetch. -/
def recheck (id : EgressId) (token : Token) : Option Recheck :=
  (s.egress.rows.find? fun r =>
    r.id == id && r.claimToken == some token && r.status == .sending).map fun r =>
      ⟨r, s.hasSource r, s.target? r, (s.target? r).any (s.hasRecipient r)⟩

/-- A failed attempt is settled under its token. -/
def settleFailure (id : EgressId) (token : Token) (failure : Failure) (now : Millis) : Store :=
  s.updateEgress (fun r => r.id == id && r.claimToken == some token) (Row.failedWith failure now)
    fun _ => rfl

/-- `EXISTS (SELECT 1 FROM a2a_egress WHERE id = ? AND claim_token = ? AND status = 'sending')`. -/
def holdsClaim (id : EgressId) (token : Token) : Bool :=
  s.egress.rows.any fun r => r.id == id && r.claimToken == some token && r.status == .sending

/-- The first update of the batch of a sent row: its registration is credited. -/
def countSent (id : EgressId) (token : Token) (targetId : TargetId) : Store :=
  { s with
    targets := s.targets.update (fun t => t.id == targetId && s.holdsClaim id token)
      (fun t => { t with messagesSent := t.messagesSent + 1 }) fun _ => rfl }

/-- A sent row is counted and settled, in one batch. -/
def settleSent (id : EgressId) (token : Token) (targetId : TargetId) : Store :=
  (s.countSent id token targetId).updateEgress (fun r => r.id == id && r.claimToken == some token)
    Row.settledSent fun _ => rfl

/-- The rows the cleanup deletes: the oldest that are eligible. -/
def cleanupCandidates (limit : ℤ) (now : Millis) : List EgressId :=
  (((s.egress.select fun r => r.cleanupEligible now).mergeSort fun r r' =>
    decide (r.createdAt < r'.createdAt ∨ (r.createdAt = r'.createdAt ∧ r.id ≤ r'.id))).take
      (batchLimit limit)).map Row.id

/-- `cleanupA2aEgress`. -/
def cleanup (limit : ℤ) (now : Millis) : ℕ × Store :=
  let candidates := s.cleanupCandidates limit now
  (s.egress.count fun r => candidates.contains r.id,
    { s with egress := s.egress.deleteWhere fun r => candidates.contains r.id })

/-- `expireA2aEgressForReuse`. -/
def expireForReuse (id : EgressId) (now : Millis) : ℕ × Store :=
  let hit := fun r : Row => r.id == id && r.cleanupEligible now
  (s.egress.count hit, { s with egress := s.egress.deleteWhere hit })

end Store

/-- Execute one statement. -/
def run : (q : Stmt) → q.Answer → Store → q.Reply × Store
  | .getEgress id, _, s => (s.row? id, s)
  | .getSource r, _, s => (s.hasSource r, s)
  | .randomUuid, _, s => (s.nextToken, { s with nextToken := s.nextToken + 1 })
  | .dateNow, (now : Millis), s => (now, s)
  | .claim id token, (now : Millis), s => s.claim id token now
  | .recheck id token, _, s => (s.recheck id token, s)
  | .fetch .., (outcome : FetchOutcome), s => (outcome, s)
  | .settleFailure id token failure, (now : Millis), s => ((), s.settleFailure id token failure now)
  | .settleSent id token targetId, _, s => ((), s.settleSent id token targetId)
  | .cleanup limit, (now : Millis), s => s.cleanup limit now
  | .expireForReuse id now, _, s => s.expireForReuse id now

/-- What happens to the tables outside the dispatch: rows are admitted, messages and agents come
and go, and registrations are made, changed and withdrawn. -/
inductive Drift
  | accept (a : Admission)
  | retained (messages : List (MessageId × WorkspaceId)) (agents : List (AgentId × WorkspaceId))
  | register (t : Target)
  | rotate (id : TargetId) (externalUrl : Url) (authScheme authCredential : Option String)
  | withdraw (id : TargetId)

/-- What a drift does.  A registration starts without a message sent. -/
def drift : Drift → Store → Store
  | .accept a, s => { s with egress := s.egress.insertOrIgnore a.row }
  | .retained messages agents, s => { s with messages := messages, agents := agents }
  | .register t, s => { s with targets := s.targets.insertOrIgnore { t with messagesSent := 0 } }
  | .rotate id externalUrl authScheme authCredential, s =>
    { s with
      targets := s.targets.update (fun t => t.id == id)
        (fun t => { t with
          externalUrl := externalUrl, authScheme := authScheme, authCredential := authCredential })
        fun _ => rfl }
  | .withdraw id, s => { s with targets := s.targets.deleteWhere fun t => t.id == id }

/-- The machine of the egress. -/
def machine : Machine lang Store where
  run := run
  Drift := Drift
  drift := drift

/-! ## Functions -/

/-- The pure checks of the transport: the schema of a request, the normal form and the safety of a
URL, and its scheme. -/
structure Transport where
  parses : String → Bool
  normalizeBaseUrl : Url → Url
  isSafeExternalUrl : Url → Bool
  isHttps : Url → Bool

/-- The recheck before each fetch. -/
def beforeAttempt (intent : Row) (token : Token) :
    Prog lang (Except Failure (Option String × Option String)) := do
  let current : Option Recheck ← await (.recheck intent.id token)
  match current with
  | none => pure (.error windowExpired)
  | some current =>
    let now : Millis ← await .dateNow
    if current.intent.expired now then pure (.error windowExpired)
    else if !current.source then pure (.error notRetained)
    else
      match current.target with
      | none => pure (.error targetGone)
      | some target =>
        if !current.recipient || target.externalUrl != intent.externalUrl then
          pure (.error targetGone)
        else pure (.ok (target.authScheme, target.authCredential))

/-- One attempt of the transport. -/
def attemptOnce (T : Transport) (intent : Row) (token : Token) (targetUrl : Url) :
    Prog lang (Except Failure Unit) := do
  match ← beforeAttempt intent token with
  | .error failure => pure (.error failure)
  | .ok (scheme, credential) =>
    if !T.isHttps targetUrl && credential.any (· != "") &&
        (scheme == some "bearer" || scheme == some "api_key") then
      pure (.error (codedError "Credentialed A2A targets require HTTPS" "a2a_agent_url_forbidden"
        400))
    else
      let outcome : FetchOutcome ← await (.fetch targetUrl scheme credential intent.id)
      pure outcome.result

/-- The attempts of the transport, `retries` of them after the first. -/
def attempts (T : Transport) (intent : Row) (token : Token) (targetUrl : Url) :
    ℕ → Prog lang (Except Failure Unit)
  | 0 => attemptOnce T intent token targetUrl
  | retries + 1 => do
    match ← attemptOnce T intent token targetUrl with
    | .ok () => pure (.ok ())
    | .error failure =>
      if failure.retryable == some true then attempts T intent token targetUrl retries
      else pure (.error failure)

/-- `sendToExternalAgent` of a claimed row; `RETRY_DELAYS_MS` has two entries. -/
def sendToExternalAgent (T : Transport) (intent : Row) (token : Token) (payload : String) :
    Prog lang (Except Failure Unit) :=
  let targetUrl := T.normalizeBaseUrl intent.externalUrl
  if !T.parses payload then
    pure (.error (codedError "Invalid A2A JSON-RPC request or metadata" "invalid_a2a_request" 400))
  else if !T.isSafeExternalUrl targetUrl then
    pure (.error (codedError ("Refusing to send to non-public A2A URL: " ++ targetUrl)
      "a2a_agent_url_forbidden" 400))
  else attempts T intent token targetUrl 2

/-- `validateSource`. -/
def validateSource (intent : Row) : Prog lang (Except Failure Unit) := do
  let now : Millis ← await .dateNow
  if intent.expired now then pure (.error windowExpired)
  else
    let source : Bool ← await (.getSource intent)
    pure (if source then .ok () else .error notRetained)

/-- The transport of a claimed row and its settlement. -/
def sendClaimed (T : Transport) (intent : Row) (token : Token) : Prog lang (Except Failure Unit) :=
  do
  match ← (match intent.payload with
    | none => pure (.error notRetained)
    | some payload => sendToExternalAgent T intent token payload) with
  | .error failure =>
    let _ : Unit ← await (.settleFailure intent.id token failure)
    pure (.error failure.rethrown)
  | .ok () =>
    let _ : Unit ← await (.settleSent intent.id token intent.targetId)
    pure (.ok ())

/-- A row that is not settled: claim it under a fresh token and send it. -/
def claimAndSend (T : Transport) (id : EgressId) : Prog lang (Except Failure Unit) := do
  let token : Token ← await .randomUuid
  let intent : Option Row ← await (.claim id token)
  match intent with
  | none =>
    pure (.error (codedError "Accepted A2A message is being sent; retry the same key"
      "a2a_egress_in_progress" 409))
  | some intent => sendClaimed T intent token

/-- `dispatchA2aEgress`. -/
def dispatchA2aEgress (T : Transport) (id : EgressId) : Prog lang (Except Failure Unit) := do
  let existing : Option Row ← await (.getEgress id)
  match existing with
  | none => pure (.error windowExpired)
  | some existing =>
    match existing.status with
    | .failed =>
      pure (.error (codedError
        (existing.lastError.getD "A2A upstream rejected the accepted message")
        (existing.errorCode.getD "a2a_upstream_rejected") (existing.errorStatus.getD 502)))
    | .sent => validateSource existing
    | .pending | .sending => claimAndSend T id

/-! ## The service -/

/-- A call of one of the functions. -/
inductive Call
  | dispatchA2aEgress (id : EgressId)
  | cleanupA2aEgress (limit : ℤ)
  | expireA2aEgressForReuse (id : EgressId) (now : Millis)

/-- What a call returns. -/
def Call.Result : Call → Type
  | .dispatchA2aEgress _ => Except Failure Unit
  | .cleanupA2aEgress _ => ℕ
  | .expireA2aEgressForReuse .. => Bool

/-- The body of a call. -/
def Call.body (T : Transport) : (c : Call) → Prog lang c.Result
  | .dispatchA2aEgress id => A2a.dispatchA2aEgress T id
  | .cleanupA2aEgress limit => await (.cleanup limit)
  | .expireA2aEgressForReuse id now => do
    let deleted : ℕ ← await (.expireForReuse id now)
    pure (decide (deleted > 0))

/-- The egress; a run starts without a row. -/
def service (T : Transport) : System lang Store Call Call.Result where
  toMachine := machine
  body := Call.body T
  init s := s.egress.rows = []

end A2a
