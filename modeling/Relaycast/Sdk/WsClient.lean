import Relaycast.Reactive.Run
import Relaycast.Reactive.Socket

/-!
# The socket of a WebSocket client

`connect()` fetches a token and then opens a socket; a socket that goes away is replaced after a
while.  `disconnect()` and `reconnect()` may come at any moment: while a token is being fetched,
while a socket connects, while a node registration is being made, and from within the handlers of an
event that the client emits.

What the frames that are sent and received say is left out; it concerns neither the sockets nor the
timers.  Handlers do not throw.
-/

namespace Sdk

open Reactive

abbrev SocketId := ℕ

/-- The number of a call of the token function. -/
abbrev FetchId := ℕ

/-- The options the client was constructed with, as far as they matter here. -/
structure WsClientOptions where
  /-- Unlimited if none. -/
  maxReconnectAttempts : Option ℕ
  circuitBreakerMaxAttempts : ℕ
  /-- Is there a `nodeRegistration`? -/
  nodeRegistration : Bool

/-- What goes on when the handlers of an emitted event have returned. -/
inductive Frame
  | scheduleReconnect
  /-- The end of `scheduleReconnect`, after `reconnecting` was emitted. -/
  | setReconnectTimer
  /-- `ws.close()`. -/
  | closeSocket (i : SocketId)
  /-- The end of `onerror`. -/
  | afterError
  deriving DecidableEq

/-- The fields of the client, with what is pending on its behalf. -/
structure WsClient where
  sockets : List Socket
  ws : Option SocketId
  connecting : Bool
  isOpen : Bool
  closed : Bool
  permanentlyDisconnected : Bool
  reconnectAttempt : ℕ
  /-- The timer is set: nothing sets it twice, and its callback clears it. -/
  reconnectTimer : Bool
  /-- The connect timer that the client remembers, by its socket. -/
  connectTimer : Option SocketId
  /-- The connect timers that are running, by their sockets. -/
  connectTimers : List SocketId
  pingTimer : Bool
  /-- How often the token function was called. -/
  fetches : ℕ
  /-- The calls of the token function that have not settled. -/
  unfinished : List FetchId
  /-- The sockets whose registration is being made. -/
  registering : List SocketId
  frames : List Frame
  deriving DecidableEq

/-- A client that was just constructed. -/
def WsClient.start : WsClient where
  sockets := []
  ws := none
  connecting := false
  isOpen := false
  closed := false
  permanentlyDisconnected := false
  reconnectAttempt := 0
  reconnectTimer := false
  connectTimer := none
  connectTimers := []
  pingTimer := false
  fetches := 0
  unfinished := []
  registering := []
  frames := []

/-- What happens to a client. -/
inductive WsEvent
  | connect
  | disconnect
  | reconnect
  /-- The handlers of the emitted event have returned. -/
  | resume
  /-- The token arrives, and the socket can be constructed or not. -/
  | tokenResolved (k : FetchId) (constructed : Bool)
  | tokenRejected (k : FetchId)
  | registrationResolved (i : SocketId)
  | registrationRejected (i : SocketId)
  | socket (i : SocketId) (e : SocketEvent)
  | connectTimeout (i : SocketId)
  | reconnectTimeout
  | ping
  deriving DecidableEq

namespace WsClient

variable (o : WsClientOptions) (s : WsClient)

/-! ## Public functions -/

/-- `connect()`, up to the token. -/
def connect : WsClient :=
  if s.ws.isSome || s.connecting then s
  else
    { s with
      closed := false
      permanentlyDisconnected := false
      connecting := true
      fetches := s.fetches + 1
      unfinished := s.fetches :: s.unfinished }

def clearConnectTimer : WsClient :=
  match s.connectTimer with
  | none => s
  | some i =>
    { s with connectTimer := none, connectTimers := s.connectTimers.filter (· != i) }

def stopPing : WsClient := { s with pingTimer := false }

def startPing : WsClient := { s with pingTimer := true }

def clearReconnectTimer : WsClient := { s with reconnectTimer := false }

/-- The handlers are taken off the current socket before it is closed. -/
def detachSocket : WsClient :=
  match s.ws with
  | none => s
  | some i => { s with sockets := s.sockets.modify i Socket.detach, ws := none }

def disconnect : WsClient :=
  let s := { s with
    closed := true
    isOpen := false
    connecting := false
    permanentlyDisconnected := false }
  s.clearConnectTimer.stopPing.clearReconnectTimer.detachSocket

def reconnect : WsClient :=
  let s := { s with
    closed := false
    isOpen := false
    connecting := false
    permanentlyDisconnected := false
    reconnectAttempt := 0 }
  s.clearConnectTimer.stopPing.clearReconnectTimer.detachSocket.connect

/-! ## Reconnecting -/

def tripCircuitBreaker : WsClient :=
  if s.permanentlyDisconnected then s
  else { s with permanentlyDisconnected := true, reconnectTimer := false }

/-- Have the attempts been used up? -/
def exhausted : Bool :=
  o.maxReconnectAttempts.any (· ≤ s.reconnectAttempt) ||
    decide (o.circuitBreakerMaxAttempts ≤ s.reconnectAttempt)

/-- `scheduleReconnect()`, up to the handlers of `reconnecting`. -/
def scheduleReconnect : WsClient :=
  if s.reconnectTimer || s.closed || s.permanentlyDisconnected then s
  else if s.exhausted o then s.tripCircuitBreaker
  else
    { s with
      reconnectAttempt := s.reconnectAttempt + 1
      frames := .setReconnectTimer :: s.frames }

/-- The callback of the timer. -/
def reconnectTimeout : WsClient := s.clearReconnectTimer.connect

/-! ## The token -/

/-- The call has settled. -/
def settled (k : FetchId) : WsClient := { s with unfinished := s.unfinished.filter (· != k) }

/-- `openSocket()` from the token on. -/
def openSocket : WsClient :=
  { s with
    sockets := s.sockets ++ [Socket.created]
    ws := some s.sockets.length
    connecting := false
    connectTimer := some s.sockets.length
    connectTimers := s.sockets.length :: s.connectTimers }

/-- What `connect()` does with a failure. -/
def openFailed : WsClient :=
  if s.closed then { s with connecting := false }
  else { s with connecting := false, frames := .scheduleReconnect :: s.frames }

def tokenResolved (constructed : Bool) : WsClient :=
  if s.closed then { s with connecting := false }
  else if constructed then s.openSocket
  else s.openFailed

/-! ## Callbacks -/

/-- The connect timer of a socket fires. -/
def connectTimeout (i : SocketId) : WsClient :=
  let s := { s with connectTimers := s.connectTimers.filter (· != i) }
  if s.ws != some i || s.isOpen || s.closed then s
  else { s with ws := none, frames := .scheduleReconnect :: .closeSocket i :: s.frames }

/-- `handleOpen`, up to the registration if there is one. -/
def handleOpen (i : SocketId) : WsClient :=
  let s := s.clearConnectTimer
  let s := { s with isOpen := true, reconnectAttempt := 0, permanentlyDisconnected := false }
  if o.nodeRegistration then { s with registering := i :: s.registering } else s.startPing

/-- The rest of `handleOpen`. -/
def registrationResolved (i : SocketId) : WsClient :=
  let s := { s with registering := s.registering.filter (· != i) }
  if s.ws != some i || s.closed then s else s.startPing

/-- What `onopen` does with a failure of `handleOpen`. -/
def registrationRejected (i : SocketId) : WsClient :=
  let s := { s with registering := s.registering.filter (· != i) }
  if s.ws != some i || s.closed then s else { s with frames := .closeSocket i :: s.frames }

def onclose : WsClient :=
  let s := { s.clearConnectTimer with isOpen := false }
  let s := { s.stopPing with ws := none }
  if s.closed then s else s.scheduleReconnect o

/-- The end of `onerror`: a socket that has not opened is given up. -/
def afterError : WsClient :=
  if !s.isOpen && !s.closed then { s.clearConnectTimer with ws := none }.scheduleReconnect o else s

/-- An event reaches the handlers of a socket. -/
def deliver (i : SocketId) (e : SocketEvent) : WsClient :=
  if s.ws != some i then s
  else
    match e with
    | .opening => s.handleOpen o i
    | .message => s
    | .error => { s with frames := .afterError :: s.frames }
    | .close => s.onclose o

/-- The ping timer fires, and is set again. -/
def ping : WsClient := if s.isOpen then s.startPing else { s with pingTimer := false }

/-- What goes on after the handlers. -/
def resume : Frame → WsClient
  | .scheduleReconnect => s.scheduleReconnect o
  | .setReconnectTimer => { s with reconnectTimer := true }
  | .closeSocket i => { s with sockets := s.sockets.modify i Socket.close }
  | .afterError => s.afterError o

/-! ## Events -/

/-- What an event does once nothing else is going on, if it can happen. -/
def react : WsEvent → Option WsClient
  | .tokenResolved k constructed =>
    if k ∈ s.unfinished then some ((s.settled k).tokenResolved constructed) else none
  | .tokenRejected k => if k ∈ s.unfinished then some (s.settled k).openFailed else none
  | .registrationResolved i =>
    if i ∈ s.registering then some (s.registrationResolved i) else none
  | .registrationRejected i =>
    if i ∈ s.registering then some (s.registrationRejected i) else none
  | .socket i e =>
    match s.sockets[i]? with
    | none => none
    | some k =>
      (k.after e).map fun k' =>
        let s := { s with sockets := s.sockets.set i k' }
        if k.attached then s.deliver o i e else s
  | .connectTimeout i => if i ∈ s.connectTimers then some (s.connectTimeout i) else none
  | .reconnectTimeout => if s.reconnectTimer then some s.reconnectTimeout else none
  | .ping => if s.pingTimer then some s.ping else none
  | .connect | .disconnect | .reconnect | .resume => none

/-- What an event does, if it can happen.  The public functions can be called at any moment, also
by handlers; everything else waits until the handlers have returned. -/
def step : WsEvent → Option WsClient
  | .connect => some s.connect
  | .disconnect => some s.disconnect
  | .reconnect => some s.reconnect
  | .resume =>
    match s.frames with
    | [] => none
    | f :: fs => some ({ s with frames := fs }.resume o f)
  | e => if s.frames = [] then s.react o e else none

end WsClient

end Sdk
