import Relaycast.Reactive.Run
import Relaycast.Reactive.Socket
import Relaycast.Reactive.Timer

/-!
# The lifecycle of a node provider

`serve()` keeps a provider attached to its node: it opens a socket, registers on it, sends
heartbeats while it is registered, and opens another socket when one is lost.  `stop()` lets the
running handlers finish, for a while, and then closes everything.  The promise of `serve()` settles
when the provider stops or is not to be served any longer; that of `whenRegistered()`, when it is
registered or will not be.

The reactions of the promise of the register request are jobs, which run before the next event; a
call of `stop()` may come before them, and from within `onError`.  Of the requests only that of the
registration is modelled; `onError` does not throw.
-/

namespace Sdk.NodeProvider

open Reactive

abbrev SocketId := ℕ

/-- A running handler. -/
abbrev TaskId := ℕ

/-! ## Registration replies -/

/-- Why a promise is rejected: a `NodeRegistrationError`, or any other error. -/
inductive Failure
  | registration (message code : String)
  | other (message : String)
  deriving DecidableEq

/-- An entry of `accepted_capabilities`: its name if that is a string, and how an error describes
the entry, unless the description throws. -/
structure Acceptance where
  name : Option String
  accepted : Bool
  shown : Option String
  deriving DecidableEq

/-- The list of a reply, if it has one. -/
abbrev RegisterReply := Option (List Acceptance)

/-- What `onRegistered` thinks of a reply to the names that were sent. -/
def judge (reply : RegisterReply) (sentNames : List String) : Except Failure Unit :=
  match reply with
  | none =>
    .error (.registration "Registration reply is missing accepted_capabilities"
      "invalid_register_reply")
  | some list =>
    let missing := sentNames.filter fun name => !list.any fun c => c.name == some name
    let rejected := list.filter fun c => !c.accepted
    if missing ≠ [] then
      .error (.registration ("Registration reply omitted acceptance for: " ++
        ", ".intercalate missing) "invalid_register_reply")
    else if rejected ≠ [] then
      match rejected.mapM (·.shown) with
      | none => .error (.other "Cannot convert object to primitive value")
      | some details =>
        .error (.registration ("Capabilities rejected: " ++ ", ".intercalate details)
          "capabilities_rejected")
    else .ok ()

/-! ## State -/

/-- How a promise has settled. -/
inductive Outcome
  | resolved
  | rejected (e : Failure)
  deriving DecidableEq

/-- A reaction of the promise of the register request. -/
inductive Job
  /-- `onRegistered`, for the request that was sent on the socket with the names. -/
  | registered (i : SocketId) (sentNames : List String) (reply : RegisterReply)
  /-- `onRegisterFailed`. -/
  | failed (e : Failure)
  deriving DecidableEq

/-- What goes on when `onError` has returned. -/
inductive Frame
  | scheduleReconnect
  /-- The end of `scheduleReconnect`, with no attempts left. -/
  | giveUp
  /-- The end of `onRegisterFailed`, for an error of the transport. -/
  | reconnect
  /-- The end of `onRegisterFailed`, for a rejection. -/
  | refuse (message code : String)
  deriving DecidableEq

/-- The fields of the provider, with what is pending on its behalf. -/
structure Provider where
  sockets : List Socket
  ws : Option SocketId
  heartbeatTimer : Timer
  reconnectTimer : Timer
  reconnectAttempt : ℕ
  stopped : Bool
  registered : Bool
  registrationRejected : Bool
  /-- Are `resolveServe` and `rejectServe` there? -/
  serveOpen : Bool
  /-- How the promise of `serve()` was settled. -/
  serveSettled : List Outcome
  /-- Are `resolveRegister` and `rejectRegister` there? -/
  registerOpen : Bool
  registerSettled : List Outcome
  /-- The register request in `pending`, with its socket and the names that were sent. -/
  pending : Option (SocketId × List String)
  jobs : List Job
  invokeTasks : List TaskId
  nextTask : TaskId
  /-- The calls of `stop()` that await handlers. -/
  draining : List (List TaskId)
  stopCalls : ℕ
  /-- How many calls of `stop()` have resolved. -/
  stopsDone : ℕ
  /-- The sockets whose registration was accepted. -/
  acceptedOn : List SocketId
  frames : List Frame
  deriving DecidableEq

/-- `maxReconnectAttempts`; unlimited if none. -/
abbrev Options := Option ℕ

/-- A frame that the engine sends; replies and errors are those of the register request, and
anything else is of no interest here. -/
inductive Message
  | reply (data : RegisterReply)
  | error (message code : String)
  | invoke
  | other
  deriving DecidableEq

inductive Event
  | stop
  /-- `onError` has returned. -/
  | resume
  | job
  /-- A call of `stop()` has awaited its handlers, or has waited for long enough. -/
  | drained (n : ℕ) (timedOut : Bool)
  /-- A handler has finished. -/
  | finished (t : TaskId)
  /-- The socket opens; the names are those of the capabilities, and the register frame can be sent
  or not. -/
  | opening (i : SocketId) (names : List String) (sent : Bool)
  | message (i : SocketId) (m : Message)
  | error (i : SocketId)
  | close (i : SocketId)
  | reconnectTimeout (n : ℕ) (constructed : Bool)
  | heartbeat (n : ℕ)
  deriving DecidableEq

namespace Provider

variable (o : Options) (s : Provider)

/-! ## Promises and timers -/

/-- `settleServe`. -/
def settleServe (outcome : Outcome) : Provider :=
  if s.serveOpen then { s with serveOpen := false, serveSettled := outcome :: s.serveSettled }
  else s

def settleRegister (outcome : Outcome) : Provider :=
  if s.registerOpen then
    { s with registerOpen := false, registerSettled := outcome :: s.registerSettled }
  else s

def rejectPending (e : Failure) : Provider :=
  match s.pending with
  | none => s
  | some _ => { s with pending := none, jobs := s.jobs ++ [.failed e] }

def stopHeartbeat : Provider := { s with heartbeatTimer := s.heartbeatTimer.clear }

def startHeartbeat : Provider := { s with heartbeatTimer := s.heartbeatTimer.clear.set }

def clearReconnect : Provider := { s with reconnectTimer := s.reconnectTimer.clear }

/-- The handlers are taken off the current socket before it is closed. -/
def closeSocket : Provider :=
  match s.ws with
  | none => s
  | some i => { s with sockets := s.sockets.modify i Socket.detach, ws := none }

def exhausted : Failure := .other "node provider exhausted reconnect attempts"

/-- `scheduleReconnect`, up to the report if there are no attempts left. -/
def scheduleReconnect : Provider :=
  if s.stopped || s.reconnectTimer.handle.isSome then s
  else if o.any (· ≤ s.reconnectAttempt) then { s with frames := .giveUp :: s.frames }
  else
    { s with
      reconnectAttempt := s.reconnectAttempt + 1
      reconnectTimer := s.reconnectTimer.set }

/-- The end of `scheduleReconnect`, with no attempts left. -/
def giveUp : Provider :=
  ({ s with stopped := true }.settleRegister (.rejected exhausted)).settleServe
    (.rejected exhausted)

/-- `openSocket`, up to the report if the socket cannot be constructed. -/
def openSocket (constructed : Bool) : Provider :=
  if s.stopped then s
  else if constructed then
    { s with
      registered := false
      sockets := s.sockets ++ [Socket.created]
      ws := some s.sockets.length }
  else { s with registered := false, frames := .scheduleReconnect :: s.frames }

/-! ## Starting and stopping -/

/-- A provider of which nothing was asked yet. -/
def fresh : Provider where
  sockets := []
  ws := none
  heartbeatTimer := .unset
  reconnectTimer := .unset
  reconnectAttempt := 0
  stopped := false
  registered := false
  registrationRejected := false
  serveOpen := false
  serveSettled := []
  registerOpen := false
  registerSettled := []
  pending := none
  jobs := []
  invokeTasks := []
  nextTask := 0
  draining := []
  stopCalls := 0
  stopsDone := 0
  acceptedOn := []
  frames := []

/-- `serve()`, which makes both promises. -/
def serve (constructed : Bool) : Provider :=
  { fresh with serveOpen := true, registerOpen := true }.openSocket constructed

/-- `stop()` from the await on. -/
def finishStop : Provider :=
  let s := s.settleRegister (.rejected (.other "node provider stopped"))
  let s := (s.rejectPending (.other "node provider stopped")).closeSocket
  { s with registered := false, stopsDone := s.stopsDone + 1 }.settleServe .resolved

/-- `stop()`, up to the await if a handler is running. -/
def stop : Provider :=
  let s := { s with stopped := true, stopCalls := s.stopCalls + 1 }
  let s := s.clearReconnect.stopHeartbeat
  if s.invokeTasks = [] then s.finishStop
  else { s with draining := s.draining ++ [s.invokeTasks] }

/-! ## Registration -/

/-- `sendRegister`, on a socket that has opened. -/
def sendRegister (i : SocketId) (names : List String) (sent : Bool) : Provider :=
  let s := { s with registrationRejected := false }
  if sent then { s with pending := some (i, names) }
  else { s with jobs := s.jobs ++ [.failed (.other "node provider websocket is not open")] }

/-- `onRegisterFailed`, up to the report. -/
def onRegisterFailed : Failure → Provider
  | .registration message code =>
    let s := { s with registrationRejected := true }
    let s := s.settleRegister (.rejected (.registration message code))
    { s with frames := .refuse message code :: s.frames }
  | .other _ => { s with frames := .reconnect :: s.frames }

/-- A reply that accepts every capability. -/
def accept (i : SocketId) : Provider :=
  { s with
    registered := true
    reconnectAttempt := 0
    acceptedOn := i :: s.acceptedOn }.startHeartbeat.settleRegister .resolved

/-- `onRegistered`; what it throws is for `onRegisterFailed` to handle in its turn. -/
def onRegistered (i : SocketId) (sentNames : List String) (reply : RegisterReply) : Provider :=
  match judge reply sentNames with
  | .ok () => s.accept i
  | .error (.registration message code) => s.onRegisterFailed (.registration message code)
  | .error (.other message) => { s with jobs := s.jobs ++ [.failed (.other message)] }

/-- The end of `onRegisterFailed`, for an error of the transport. -/
def dropAndReconnect : Provider :=
  if s.stopped then s else s.closeSocket.scheduleReconnect o

/-- The end of `onRegisterFailed`, for a rejection. -/
def refuse (message code : String) : Provider :=
  let s := s.closeSocket
  if s.stopped then s
  else { s with stopped := true }.settleServe (.rejected (.registration message code))

/-! ## Callbacks -/

/-- `handleFrame`. -/
def onmessage : Message → Provider
  | .reply data =>
    match s.pending with
    | none => s
    | some (i, names) =>
      { s with pending := none, jobs := s.jobs ++ [.registered i names data] }
  | .error message code =>
    match s.pending with
    | none => s
    | some _ =>
      { s with pending := none, jobs := s.jobs ++ [.failed (.registration message code)] }
  | .invoke =>
    if s.stopped then s
    else { s with invokeTasks := s.nextTask :: s.invokeTasks, nextTask := s.nextTask + 1 }
  | .other => s

def onclose : Provider :=
  let wasRegistered := s.registered
  let s := { s with ws := none }.stopHeartbeat
  let s := { s with registered := false }
  let s := s.rejectPending (.other "node provider connection closed")
  if s.stopped then s.settleServe .resolved
  else if s.registerOpen && !wasRegistered && s.registrationRejected then s
  else s.scheduleReconnect o

/-- The callback of the reconnect timer. -/
def reconnectTimeout (n : ℕ) (constructed : Bool) : Provider :=
  { s with reconnectTimer := s.reconnectTimer.fire n }.openSocket constructed

/-! ## Events -/

/-- What goes on after `onError`. -/
def resume : Frame → Provider
  | .scheduleReconnect => s.scheduleReconnect o
  | .giveUp => s.giveUp
  | .reconnect => s.dropAndReconnect o
  | .refuse message code => s.refuse message code

def runJob : Job → Provider
  | .registered i names reply => s.onRegistered i names reply
  | .failed e => s.onRegisterFailed e

/-- An event of a socket happens, and reaches its handler unless that was taken off or the socket
is no longer the current one. -/
def deliver (i : SocketId) (e : SocketEvent) (handler : Provider → Provider) : Option Provider :=
  match s.sockets[i]? with
  | none => none
  | some k =>
    (k.after e).map fun k' =>
      let s := { s with sockets := s.sockets.set i k' }
      if k.attached && s.ws == some i then handler s else s

/-- What an event does once no reaction of a promise is left. -/
def react : Event → Option Provider
  | .opening i names sent => s.deliver i .opening fun s => s.sendRegister i names sent
  | .message i m => s.deliver i .message fun s => s.onmessage m
  | .error i => s.deliver i .error id
  | .close i => s.deliver i .close fun s => s.onclose o
  | .reconnectTimeout n constructed =>
    if n ∈ s.reconnectTimer.running then some (s.reconnectTimeout n constructed) else none
  | .heartbeat n => if n ∈ s.heartbeatTimer.running then some s else none
  | .stop | .resume | .job | .drained .. | .finished _ => none

/-- What an event does, if it can happen. -/
def step : Event → Option Provider
  | .stop => some s.stop
  | .resume =>
    match s.frames with
    | [] => none
    | f :: fs => some ({ s with frames := fs }.resume o f)
  | .job =>
    match s.frames, s.jobs with
    | [], j :: js => some ({ s with jobs := js }.runJob j)
    | _, _ => none
  | .drained n timedOut =>
    match s.frames, s.draining[n]? with
    | [], some tasks =>
      if timedOut || tasks.all (fun t => !s.invokeTasks.contains t) then
        some { s with draining := s.draining.eraseIdx n }.finishStop
      else none
    | _, _ => none
  | .finished t =>
    if s.frames = [] ∧ t ∈ s.invokeTasks then
      some { s with invokeTasks := s.invokeTasks.filter (· != t) }
    else none
  | e => if s.frames = [] ∧ s.jobs = [] then s.react o e else none

end Provider

end Sdk.NodeProvider
