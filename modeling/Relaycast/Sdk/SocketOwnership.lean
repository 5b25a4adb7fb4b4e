import Relaycast.Sdk.WsClient

/-!
# Who owns the socket of a WebSocket client

At most one socket of a client is in use, and it is the one in its `ws` field; and a client is doing
one thing at a time: it fetches a token, has a socket, or waits to reconnect.

A token fetch is not told from the next one: `openSocket` asks only whether the client is closed
when its token arrives, so a token that a `connect()` before the last `disconnect()` asked for opens
a socket beside that of the `connect()` after it.  `connect()` does not cancel a reconnect that is
waiting, and `scheduleReconnect` does not look again once the handlers of `reconnecting` have
returned.  And a socket whose registration failed is closed, but counts as connected until its close
event.  `ownership_of_orderly` says that nothing else goes wrong.
-/

namespace Sdk

open Reactive

namespace WsClient

/-! ## What is claimed -/

/-- The token fetch that the latest `connect()` has started is unfinished. -/
def fetching (s : WsClient) : Bool := s.unfinished.any fun k => k + 1 == s.fetches

/-- No timer is set. -/
def NoTimer (s : WsClient) : Prop :=
  s.reconnectTimer = false ∧ s.connectTimers = [] ∧ s.pingTimer = false

/-- What holds of the sockets and timers of a client at any moment. -/
structure Owned (s : WsClient) : Prop where
  /-- A socket in use is the current one, or has timed out and is being closed. -/
  current : ∀ i k, s.sockets[i]? = some k → k.live = true →
    s.ws = some i ∨ s.ws = none ∧ .closeSocket i ∈ s.frames
  /-- One socket at most is in use. -/
  one : ∀ (i j : SocketId) (k l : Socket), s.sockets[i]? = some k → s.sockets[j]? = some l →
    k.live = true → l.live = true → i = j
  /-- One thing at a time. -/
  exclusive : (s.fetching = true → s.ws = none) ∧ (s.fetching = true → s.reconnectTimer = false) ∧
    (s.reconnectTimer = true → s.ws = none)
  /-- A connected client has an open socket. -/
  connected : s.isOpen = true → ∃ i k, s.ws = some i ∧ s.sockets[i]? = some k ∧ k.isOpen = true

/-- What holds of a run that ends in `s`. -/
structure Ownership (o : WsClientOptions) (es : List WsEvent) (s : WsClient) : Prop where
  owned : s.Owned
  /-- After `disconnect()` no socket is opened and no timer is set. -/
  disconnected : ∀ before after s₁, es = before ++ .disconnect :: after →
    (∀ e ∈ after, e ≠ .connect ∧ e ≠ .reconnect) →
      run (step o) start (before ++ [.disconnect]) = some s₁ →
        s.sockets.length = s₁.sockets.length ∧ s.NoTimer

/-! ## Where it holds -/

/-- The client is not doing anything, but may be about to reconnect. -/
def atRest (s : WsClient) : Bool := s.ws.isNone && !s.connecting

/-- The token was asked for by the latest `connect()`, or nothing is made of it, or nothing else is
going on. -/
def expects (s : WsClient) (k : FetchId) (constructed : Bool) : Bool :=
  k + 1 == s.fetches || s.closed || (s.atRest && !(constructed && s.reconnectTimer))

/-- Tokens are of the latest `connect()`, which starts no fetch while a reconnect is waiting; the
timer is set for a client that still has nothing else to do; and no registration fails on the
current socket. -/
def orderly (s : WsClient) : WsEvent → Bool
  | .connect => !(s.atRest && s.reconnectTimer)
  | .tokenResolved k constructed => s.expects k constructed
  | .tokenRejected k => s.expects k false
  | .resume =>
    match s.frames with
    | .setReconnectTimer :: _ => s.atRest && !s.closed
    | .closeSocket i :: _ => s.ws != some i
    | _ => true
  | _ => true

/-! ## The invariant -/

/-- The client owns its socket: what holds at any moment of an orderly run. -/
structure Sound (s : WsClient) : Prop where
  /-- The current socket reports to the client, and is in use unless it is being given up. -/
  current : ∀ i, s.ws = some i → ∃ k, s.sockets[i]? = some k ∧ k.attached = true ∧
    k.closing = false ∧ (k.phase = .connecting ∧ .afterError ∉ s.frames ∨
      k.phase = .opened ∧ s.isOpen = true ∨ k.phase = .failed ∧ .afterError ∈ s.frames)
  owner : ∀ i k, s.sockets[i]? = some k → k.live = true →
    s.ws = some i ∨ .closeSocket i ∈ s.frames
  /-- A socket that is being closed is in the way of no other. -/
  closing : ∀ i, .closeSocket i ∈ s.frames → (∀ j, s.ws = some j → i = j) ∧
    ∀ j, .closeSocket j ∈ s.frames → i = j
  opened : s.isOpen = true → ∃ i k, s.ws = some i ∧ s.sockets[i]? = some k ∧ k.phase = .opened
  registering : ∀ i ∈ s.registering, i < s.sockets.length ∧ (s.ws = some i → s.isOpen = true)
  connecting : s.connecting = true → s.ws = none ∧ s.reconnectTimer = false
  fetching : s.fetching = true → s.closed = false → s.connecting = true
  waiting : s.reconnectTimer = true → s.ws = none
  pinging : s.pingTimer = true → s.isOpen = true
  timed : ∀ i ∈ s.connectTimers, s.ws = some i ∧ s.connectTimer = some i
  closed : s.closed = true → s.ws = none ∧ s.connecting = false ∧ s.reconnectTimer = false

variable {o : WsClientOptions} {s s' : WsClient} {e : WsEvent} {i : SocketId}

lemma sound_start : start.Sound where
  current i h := by simp [start] at h
  owner i k h := by simp [start] at h
  closing i h := by simp [start] at h
  opened h := by simp [start] at h
  registering i h := by simp [start] at h
  connecting h := by simp [start] at h
  fetching h := by simp [start, WsClient.fetching] at h
  waiting h := by simp [start] at h
  pinging h := by simp [start] at h
  timed i h := by simp [start] at h
  closed h := by simp [start] at h

/-- A client in good order is in the state that is claimed. -/
lemma Sound.owned (h : s.Sound) (hopen : ∀ i k, s.ws = some i → s.isOpen = true →
    s.sockets[i]? = some k → k.closing = false) : s.Owned where
  current i k hi hlive := by
    rcases h.owner i k hi hlive with hws | hframe
    · exact .inl hws
    · cases hws : s.ws with
      | none => exact .inr ⟨rfl, hframe⟩
      | some j => exact .inl (congrArg some ((h.closing i hframe).1 j hws).symm)
  one i j k l hi hj hk hl := by
    rcases h.owner i k hi hk with hi | hi <;> rcases h.owner j l hj hl with hj | hj
    · exact Option.some.inj (hi.symm.trans hj)
    · exact ((h.closing j hj).1 i hi).symm
    · exact (h.closing i hi).1 j hj
    · exact (h.closing i hi).2 j hj
  exclusive := by
    have hfetching : s.fetching = true → s.ws = none ∧ s.reconnectTimer = false := by
      intro hf
      cases hclosed : s.closed with
      | true => exact ⟨(h.closed hclosed).1, (h.closed hclosed).2.2⟩
      | false => exact h.connecting (h.fetching hf hclosed)
    exact ⟨fun hf => (hfetching hf).1, fun hf => (hfetching hf).2, h.waiting⟩
  connected hisOpen := by
    obtain ⟨i, k, hws, hi, hphase⟩ := h.opened hisOpen
    exact ⟨i, k, hws, hi, Socket.isOpen_iff.mpr ⟨hopen i k hws hisOpen hi, hphase⟩⟩

lemma Sound.open_current (h : s.Sound) (i : SocketId) (k : Socket) (hws : s.ws = some i)
    (hi : s.sockets[i]? = some k) : k.closing = false := by
  obtain ⟨k', hi', -, hclosing, -⟩ := h.current i hws
  obtain rfl := Option.some.inj (hi.symm.trans hi')
  exact hclosing

/-- A client in good order has nothing to do with its timers but those of its socket. -/
lemma Sound.noTimers (h : s.Sound) (hws : s.ws = none) :
    s.isOpen = false ∧ s.pingTimer = false ∧ s.connectTimers = [] := by
  have hopen : s.isOpen = false := by
    by_contra hopen
    obtain ⟨i, k, hsome, -⟩ := h.opened (by simpa using hopen)
    rw [hws] at hsome
    exact absurd hsome.symm (Option.some_ne_none i)
  refine ⟨hopen, ?_, List.eq_nil_iff_forall_not_mem.mpr fun i hi => ?_⟩
  · by_contra hping
    have := h.pinging (by simpa using hping)
    rw [hopen] at this
    exact Bool.noConfusion this
  · have := (h.timed i hi).1
    rw [hws] at this
    exact absurd this.symm (Option.some_ne_none i)

/-- A client without a socket is in good order. -/
lemma Sound.of_none (hws : s.ws = none) (hopen : s.isOpen = false) (hping : s.pingTimer = false)
    (htimers : s.connectTimers = [])
    (howner : ∀ i k, s.sockets[i]? = some k → k.live = true → .closeSocket i ∈ s.frames)
    (hclosing : ∀ i j, .closeSocket i ∈ s.frames → .closeSocket j ∈ s.frames → i = j)
    (hregistering : ∀ i ∈ s.registering, i < s.sockets.length)
    (hconnecting : s.connecting = true → s.reconnectTimer = false)
    (hfetching : s.fetching = true → s.closed = false → s.connecting = true)
    (hclosed : s.closed = true → s.connecting = false ∧ s.reconnectTimer = false) : s.Sound where
  current i hi := by simp [hws] at hi
  owner i k hi hlive := .inr (howner i k hi hlive)
  closing i hi := ⟨fun j hj => by simp [hws] at hj, fun j hj => hclosing i j hi hj⟩
  opened h := by simp [hopen] at h
  registering i hi := ⟨hregistering i hi, fun h => by simp [hws] at h⟩
  connecting h := ⟨hws, hconnecting h⟩
  fetching := hfetching
  waiting _ := hws
  pinging h := by simp [hping] at h
  timed i hi := by simp [htimers] at hi
  closed h := ⟨hws, hclosed h⟩

/-! ## Public functions -/

/-- Clearing the remembered connect timer clears them all. -/
lemma clearConnectTimer_eq (htimed : ∀ i ∈ s.connectTimers, s.connectTimer = some i) :
    s.clearConnectTimer = { s with connectTimer := none, connectTimers := [] } := by
  unfold clearConnectTimer
  split
  · next hnone =>
    have hnil : s.connectTimers = [] := List.eq_nil_iff_forall_not_mem.mpr fun i hi => by
      have := htimed i hi
      rw [hnone] at this
      exact absurd this.symm (Option.some_ne_none i)
    rw [← hnil, ← hnone]
  · next i hi =>
    have hnil : s.connectTimers.filter (· != i) = [] := List.filter_eq_nil_iff.mpr fun j hj => by
      have := (htimed j hj).symm.trans hi
      simpa using Option.some.inj this
    rw [hnil]

/-- `connect()` begins with a client that is at rest, or leaves it as it was. -/
lemma connect_cases : s.connect = s ∨ s.ws = none ∧ s.connecting = false ∧ s.connect =
    { s with
      closed := false
      permanentlyDisconnected := false
      connecting := true
      fetches := s.fetches + 1
      unfinished := s.fetches :: s.unfinished } := by
  unfold connect
  split_ifs with hbusy
  · exact .inl rfl
  · simp only [Bool.or_eq_true, not_or, Bool.not_eq_true, Option.isSome_eq_false_iff,
      Option.isNone_iff_eq_none] at hbusy
    exact .inr ⟨hbusy.1, hbusy.2, rfl⟩

lemma Sound.connect (h : s.Sound)
    (hrest : s.ws = none → s.connecting = false → s.reconnectTimer = false) : s.connect.Sound := by
  rcases connect_cases (s := s) with heq | ⟨hws, hconnecting, heq⟩
  · rw [heq]
    exact h
  · rw [heq]
    exact { h with
      connecting := fun _ => ⟨hws, hrest hws hconnecting⟩
      fetching := fun _ _ => rfl
      closed := fun hclosed => Bool.noConfusion hclosed }

/-- A socket that has its handlers taken off is no longer in use. -/
lemma Sound.detached_owner (h : s.Sound) (i : SocketId) (k : Socket)
    (hi : s.detachSocket.sockets[i]? = some k) (hlive : k.live = true) :
    .closeSocket i ∈ s.frames := by
  unfold detachSocket at hi
  split at hi
  · next hws =>
    exact (h.owner i k hi hlive).resolve_left (by simp [hws])
  · next j hws =>
    obtain ⟨k₀, hi₀, rfl⟩ := getElem?_modified.mp hi
    split_ifs at hlive with hij
    · simp at hlive
    · refine (h.owner i k₀ hi₀ hlive).resolve_left fun hsome => hij ?_
      exact Option.some.inj (hws.symm.trans hsome)

lemma detachSocket_length (s : WsClient) :
    s.detachSocket.sockets.length = s.sockets.length := by
  unfold detachSocket
  split
  · rfl
  · exact List.length_modify ..

/-- Detaching touches nothing but the sockets. -/
lemma detachSocket_eq (s : WsClient) : s.detachSocket =
    { s with
      sockets := s.ws.elim s.sockets fun i => s.sockets.modify i Socket.detach
      ws := none } := by
  unfold detachSocket
  split
  · next hws =>
    cases s
    simp_all
  · next i hws =>
    rw [hws]
    rfl

/-- The client without its socket and its timers. -/
def released (s : WsClient) (closed : Bool) (attempt : ℕ) : WsClient :=
  { s with
    sockets := s.detachSocket.sockets
    ws := none
    connecting := false
    isOpen := false
    closed := closed
    permanentlyDisconnected := false
    reconnectAttempt := attempt
    reconnectTimer := false
    connectTimer := none
    connectTimers := []
    pingTimer := false }

lemma Sound.disconnect_eq (h : s.Sound) : s.disconnect = s.released true s.reconnectAttempt := by
  unfold disconnect released
  dsimp only
  rw [clearConnectTimer_eq, detachSocket_eq, detachSocket_eq s]
  · rfl
  · exact fun i hi => (h.timed i hi).2

lemma Sound.reconnect_eq (h : s.Sound) : s.reconnect = (s.released false 0).connect := by
  unfold reconnect released
  dsimp only
  rw [clearConnectTimer_eq, detachSocket_eq, detachSocket_eq s]
  · rfl
  · exact fun i hi => (h.timed i hi).2

lemma Sound.disconnect (h : s.Sound) : s.disconnect.Sound := by
  rw [h.disconnect_eq]
  exact Sound.of_none rfl rfl rfl rfl h.detached_owner (fun i j hi => (h.closing i hi).2 j)
    (fun i hi => detachSocket_length s ▸ (h.registering i hi).1) (fun h => Bool.noConfusion h)
    (fun _ h => Bool.noConfusion h) fun _ => ⟨rfl, rfl⟩

lemma Sound.reconnect (h : s.Sound) : s.reconnect.Sound := by
  rw [h.reconnect_eq]
  exact Sound.of_none rfl rfl rfl rfl h.detached_owner (fun i j hi => (h.closing i hi).2 j)
    (fun i hi => detachSocket_length s ▸ (h.registering i hi).1) (fun _ => rfl) (fun _ _ => rfl)
    fun h => Bool.noConfusion h

/-! ## Reconnecting -/

/-- Frames that are not about sockets come and go. -/
lemma Sound.push (h : s.Sound) {f : Frame} (hf : ∀ i, f ≠ .closeSocket i)
    (hafter : f ≠ .afterError) : Sound { s with frames := f :: s.frames } :=
  { h with
    current := fun i hi => by
      obtain ⟨k, hk, hattached, hclosing, hphase⟩ := h.current i hi
      refine ⟨k, hk, hattached, hclosing, ?_⟩
      rwa [show (.afterError ∈ f :: s.frames) = (.afterError ∈ s.frames) by
        simp [hafter.symm]]
    owner := fun i k hi hlive => (h.owner i k hi hlive).imp_right (List.mem_cons_of_mem f)
    closing := fun i hi => by
      obtain ⟨hcurrent, hothers⟩ := h.closing i ((List.mem_cons.mp hi).resolve_left (hf i).symm)
      exact ⟨hcurrent, fun j hj =>
        hothers j ((List.mem_cons.mp hj).resolve_left (hf j).symm)⟩ }

lemma Sound.pop (h : s.Sound) {f : Frame} {fs : List Frame} (hframes : s.frames = f :: fs)
    (hf : ∀ i, f ≠ .closeSocket i) (hgiven : f = .afterError → s.ws = none ∨ s.isOpen = true) :
    Sound { s with frames := fs } := by
  have hmem : ∀ g, g ∈ fs → g ∈ s.frames := fun g hg => hframes ▸ List.mem_cons_of_mem f hg
  have htail : ∀ g, g ∈ s.frames → f ≠ g → g ∈ fs := fun g hg hne =>
    (List.mem_cons.mp (hframes ▸ hg)).resolve_left hne.symm
  exact { h with
    current := fun i hi => by
      obtain ⟨k, hk, hattached, hclosing, hphase⟩ := h.current i hi
      refine ⟨k, hk, hattached, hclosing, ?_⟩
      rcases hphase with ⟨hphase, hafter⟩ | hphase | ⟨hphase, hafter⟩
      · exact .inl ⟨hphase, fun hg => hafter (hmem _ hg)⟩
      · exact .inr (.inl hphase)
      · refine .inr (.inr ⟨hphase, htail _ hafter fun hf => ?_⟩)
        rcases hgiven hf with hnone | hopen
        · exact absurd (hnone.symm.trans hi).symm (Option.some_ne_none i)
        · obtain ⟨j, k', hws, hj, hopened⟩ := h.opened hopen
          obtain rfl := Option.some.inj (hws.symm.trans hi)
          obtain rfl := Option.some.inj (hj.symm.trans hk)
          exact SocketPhase.noConfusion (hopened.symm.trans hphase)
    owner := fun i k hi hlive => (h.owner i k hi hlive).imp_right fun hg => htail _ hg (hf i)
    closing := fun i hi => ⟨(h.closing i (hmem _ hi)).1, fun j hj =>
      (h.closing i (hmem _ hi)).2 j (hmem _ hj)⟩ }

lemma Sound.scheduleReconnect (h : s.Sound) : (s.scheduleReconnect o).Sound := by
  unfold WsClient.scheduleReconnect tripCircuitBreaker
  split_ifs with hset hexhausted
  · exact h
  · exact h
  · exact { h with
      connecting := fun hc => ⟨(h.connecting hc).1, rfl⟩
      waiting := fun hw => Bool.noConfusion hw
      closed := fun hc => ⟨(h.closed hc).1, (h.closed hc).2.1, rfl⟩ }
  · have hpush := h.push (f := .setReconnectTimer) (fun i => Frame.noConfusion) Frame.noConfusion
    exact { hpush with }

/-! ## The token -/

lemma fetching_iff : s.fetching = true ↔ ∃ k ∈ s.unfinished, k + 1 = s.fetches := by
  simp [fetching]

/-- A fetch that has settled is not going on, and the others go on. -/
lemma fetching_settled {k : FetchId} : (s.settled k).fetching = true ↔
    s.fetching = true ∧ k + 1 ≠ s.fetches := by
  simp only [fetching_iff, settled, List.mem_filter, bne_iff_ne]
  constructor
  · rintro ⟨j, ⟨hj, hne⟩, hlatest⟩
    exact ⟨⟨j, hj, hlatest⟩, fun h => hne (Nat.succ.inj (hlatest.trans h.symm))⟩
  · rintro ⟨⟨j, hj, hlatest⟩, hne⟩
    exact ⟨j, ⟨hj, fun h => hne (h ▸ hlatest)⟩, hlatest⟩

lemma Sound.settled (h : s.Sound) (k : FetchId) : (s.settled k).Sound :=
  { h with fetching := fun hf => h.fetching (fetching_settled.mp hf).1 }

/-- Once a token has arrived that was expected, the client has neither a fetch nor a socket. -/
lemma Sound.fetched (h : s.Sound) {k : FetchId} {constructed : Bool} (hk : k ∈ s.unfinished)
    (hexpects : s.expects k constructed = true) (hclosed : s.closed = false) :
    (s.settled k).fetching = false ∧ s.ws = none ∧
      (constructed = true → s.reconnectTimer = false) := by
  by_cases hlatest : k + 1 = s.fetches
  · have hconnecting := h.fetching (fetching_iff.mpr ⟨k, hk, hlatest⟩) hclosed
    obtain ⟨hws, htimer⟩ := h.connecting hconnecting
    refine ⟨?_, hws, fun _ => htimer⟩
    rw [← Bool.not_eq_true, fetching_settled]
    exact fun hf => hf.2 hlatest
  · have hrest : (s.ws = none ∧ s.connecting = false) ∧
        (constructed = true → s.reconnectTimer = false) := by
      simpa [expects, atRest, hclosed, hlatest, or_iff_not_imp_left] using hexpects
    obtain ⟨⟨hws, hconnecting⟩, htimer⟩ := hrest
    refine ⟨?_, hws, htimer⟩
    rw [← Bool.not_eq_true, fetching_settled]
    intro hf
    have := h.fetching hf.1 hclosed
    rw [hconnecting] at this
    exact Bool.noConfusion this

lemma Sound.openSocket (h : s.Sound) (hws : s.ws = none) (hfetching : s.fetching = false)
    (hclosed : s.closed = false) (htimer : s.reconnectTimer = false) (hframes : s.frames = []) :
    s.openSocket.Sound := by
  obtain ⟨hopen, hping, htimers⟩ := h.noTimers hws
  unfold WsClient.openSocket
  exact {
    current := fun i hi => by
      obtain rfl := Option.some.inj hi
      refine ⟨Socket.created, getElem?_created.mpr (.inr ⟨rfl, rfl⟩), rfl, rfl, .inl ⟨rfl, ?_⟩⟩
      simp [hframes]
    owner := fun i k hi hlive => by
      rcases getElem?_created.mp hi with hi | ⟨rfl, rfl⟩
      · rcases h.owner i k hi hlive with hcurrent | hframe
        · exact absurd (hws.symm.trans hcurrent).symm (Option.some_ne_none i)
        · exact .inr hframe
      · exact .inl rfl
    closing := fun i hi => by simp [hframes] at hi
    opened := fun hisOpen => by simp [hopen] at hisOpen
    registering := fun i hi => by
      have hlt := (h.registering i hi).1
      refine ⟨List.length_append ▸ Nat.lt_add_right 1 hlt, fun hcurrent => ?_⟩
      obtain rfl := Option.some.inj hcurrent
      exact absurd hlt (Nat.lt_irrefl _)
    connecting := fun hc => Bool.noConfusion hc
    fetching := fun hf => absurd hf (by simpa [WsClient.fetching] using hfetching)
    waiting := fun hw => by simp [htimer] at hw
    pinging := fun hp => by simp [hping] at hp
    timed := fun i hi => by
      rw [htimers] at hi
      obtain rfl := List.mem_singleton.mp hi
      exact ⟨rfl, rfl⟩
    closed := fun hc => by simp [hclosed] at hc }

lemma Sound.openFailed (h : s.Sound) (hfetching : s.closed = false → s.fetching = false) :
    s.openFailed.Sound := by
  unfold WsClient.openFailed
  split_ifs with hclosed
  · exact { h with
      connecting := fun hc => Bool.noConfusion hc
      fetching := fun _ hc => by simp [hclosed] at hc
      closed := fun hc => ⟨(h.closed hc).1, rfl, (h.closed hc).2.2⟩ }
  · have hfetching := hfetching (by simpa using hclosed)
    have hpush := h.push (f := .scheduleReconnect) (fun i => Frame.noConfusion) Frame.noConfusion
    exact { hpush with
      connecting := fun hc => Bool.noConfusion hc
      fetching := fun hf => absurd hf (by simpa [WsClient.fetching] using hfetching)
      closed := fun hc => absurd hc hclosed }

lemma Sound.tokenResolved (h : s.Sound) {k : FetchId} {constructed : Bool}
    (hk : k ∈ s.unfinished) (hframes : s.frames = [])
    (hexpects : s.expects k constructed = true) :
    ((s.settled k).tokenResolved constructed).Sound := by
  have hsettled := h.settled k
  unfold WsClient.tokenResolved
  split_ifs with hclosed hconstructed
  · exact { hsettled with
      connecting := fun hc => Bool.noConfusion hc
      fetching := fun _ hc => absurd (hclosed.symm.trans hc) (by simp)
      closed := fun hc => ⟨(hsettled.closed hc).1, rfl, (hsettled.closed hc).2.2⟩ }
  · have hclosed : s.closed = false := Bool.eq_false_iff.mpr hclosed
    obtain ⟨hfetching, hws, htimer⟩ := h.fetched hk hexpects hclosed
    exact hsettled.openSocket hws hfetching hclosed (htimer hconstructed) hframes
  · exact hsettled.openFailed fun hclosed => (h.fetched hk hexpects hclosed).1

lemma Sound.tokenRejected (h : s.Sound) {k : FetchId} (hk : k ∈ s.unfinished)
    (hexpects : s.expects k false = true) : (s.settled k).openFailed.Sound :=
  (h.settled k).openFailed fun hclosed => (h.fetched hk hexpects hclosed).1

/-! ## Callbacks -/

/-- A socket that is not the current one, or not in a phase that matters, moves on. -/
lemma Sound.updateOther (h : s.Sound) {k k' : Socket} {e : SocketEvent}
    (hi : s.sockets[i]? = some k) (hk : k.after e = some k') (hws : s.ws ≠ some i) :
    Sound { s with sockets := s.sockets.set i k' } := by
  have hkept : ∀ j, s.ws = some j → (s.sockets.set i k')[j]? = s.sockets[j]? := by
    intro j hj
    rw [getElem?_updated hi, if_neg]
    rintro rfl
    exact hws hj
  exact { h with
    current := fun j hj => by
      rw [hkept j hj]
      exact h.current j hj
    owner := fun j l hj hlive => by
      rw [getElem?_updated hi] at hj
      split_ifs at hj with hij
      · obtain rfl := Option.some.inj hj
        obtain rfl := hij
        exact h.owner i k hi (Socket.live_of_after hk hlive)
      · exact h.owner j l hj hlive
    opened := fun hopen => by
      obtain ⟨j, l, hj, hl, hphase⟩ := h.opened hopen
      exact ⟨j, l, hj, (hkept j hj).trans hl, hphase⟩
    registering := fun j hj => by simpa using h.registering j hj }

/-- The current socket has opened. -/
lemma Sound.handleOpen (h : s.Sound) {k : Socket} (hws : s.ws = some i)
    (hi : s.sockets[i]? = some k) :
    Sound ({ s with sockets := s.sockets.set i { k with phase := .opened } }.handleOpen o i) := by
  obtain ⟨k', hi', hattached, hclosing, -⟩ := h.current i hws
  obtain rfl := Option.some.inj (hi.symm.trans hi')
  have hset : (s.sockets.set i { k with phase := .opened })[i]? =
      some { k with phase := .opened } := by
    rw [getElem?_updated hi, if_pos rfl]
  have hopened : Sound
      { s with
        sockets := s.sockets.set i { k with phase := .opened }
        connectTimer := none
        connectTimers := []
        isOpen := true
        reconnectAttempt := 0
        permanentlyDisconnected := false } :=
    { h with
      current := fun j hj => by
        obtain rfl := Option.some.inj (hws.symm.trans hj)
        exact ⟨_, hset, hattached, hclosing, .inr (.inl ⟨rfl, rfl⟩)⟩
      owner := fun j l hj hlive => by
        rw [getElem?_updated hi] at hj
        split_ifs at hj with hij
        · exact .inl (hij ▸ hws)
        · exact h.owner j l hj hlive
      opened := fun _ => ⟨i, _, hws, hset, rfl⟩
      registering := fun j hj =>
        ⟨by simpa using (h.registering j hj).1, fun _ => rfl⟩
      pinging := fun _ => rfl
      timed := fun j hj => absurd hj List.not_mem_nil }
  unfold WsClient.handleOpen
  rw [clearConnectTimer_eq]
  · split_ifs
    · exact { hopened with
        registering := fun j hj => by
          rcases List.mem_cons.mp hj with rfl | hj
          · exact ⟨by simpa using (List.getElem?_eq_some_iff.mp hi).1, fun _ => rfl⟩
          · exact hopened.registering j hj }
    · exact { hopened with pinging := fun _ => rfl }
  · exact fun j hj => (h.timed j hj).2

/-- An error of the current socket: it is in use only if it had opened. -/
lemma Sound.error (h : s.Sound) {k k' : Socket} (hws : s.ws = some i)
    (hi : s.sockets[i]? = some k) (hk : k.after .error = some k') (hframes : s.frames = []) :
    Sound { s with sockets := s.sockets.set i k', frames := .afterError :: s.frames } := by
  obtain ⟨k₀, hi₀, hattached, hclosing, hphase⟩ := h.current i hws
  obtain rfl := Option.some.inj (hi.symm.trans hi₀)
  obtain ⟨hattached', hclosing'⟩ := Socket.after_frame hk
  have hset : (s.sockets.set i k')[i]? = some k' := by rw [getElem?_updated hi, if_pos rfl]
  have hphase' : (k.phase = .connecting ∧ k'.phase = .failed) ∨
      (s.isOpen = true ∧ k'.phase = .opened) := by
    simp only [Socket.after] at hk
    rcases hphase with ⟨hphase, -⟩ | ⟨hphase, hopen⟩ | ⟨-, hafter⟩
    · rw [hphase] at hk
      exact .inl ⟨hphase, by rw [← Option.some.inj hk]⟩
    · rw [hphase] at hk
      exact .inr ⟨hopen, by rw [← Option.some.inj hk, hphase]⟩
    · rw [hframes] at hafter
      exact absurd hafter List.not_mem_nil
  exact { h with
    current := fun j hj => by
      obtain rfl := Option.some.inj (hws.symm.trans hj)
      refine ⟨k', hset, hattached'.trans hattached, hclosing'.trans hclosing, ?_⟩
      rcases hphase' with ⟨-, hfailed⟩ | ⟨hopen, hopened⟩
      · exact .inr (.inr ⟨hfailed, List.mem_cons_self⟩)
      · exact .inr (.inl ⟨hopened, hopen⟩)
    owner := fun j l hj hlive => by
      rw [getElem?_updated hi] at hj
      split_ifs at hj with hij
      · exact .inl (hij ▸ hws)
      · exact (h.owner j l hj hlive).imp_right (List.mem_cons_of_mem _)
    closing := fun j hj => by simp [hframes] at hj
    opened := fun hopen => by
      obtain ⟨j, l, hj, hl, hopened⟩ := h.opened hopen
      obtain rfl := Option.some.inj (hws.symm.trans hj)
      obtain rfl := Option.some.inj (hi.symm.trans hl)
      refine ⟨i, k', hws, hset, ?_⟩
      rcases hphase' with ⟨hconnecting, -⟩ | ⟨-, hopened'⟩
      · exact SocketPhase.noConfusion (hconnecting.symm.trans hopened)
      · exact hopened'
    registering := fun j hj => by simpa using h.registering j hj }

lemma Sound.onclose (h : s.Sound) {k k' : Socket} (hws : s.ws = some i)
    (hi : s.sockets[i]? = some k) (hk : k.after .close = some k') (hframes : s.frames = []) :
    Sound ({ s with sockets := s.sockets.set i k' }.onclose o) := by
  have hdead : k'.live = false := by
    simp only [Socket.after] at hk
    split_ifs at hk
    rw [← Option.some.inj hk]
    simp [Socket.live]
  have hlost : Sound
      { s with
        sockets := s.sockets.set i k'
        ws := none
        isOpen := false
        connectTimer := none
        connectTimers := []
        pingTimer := false } := by
    refine Sound.of_none rfl rfl rfl rfl (fun j l hj hlive => ?_)
      (fun j j' hj => by simp [hframes] at hj) (fun j hj => by simpa using (h.registering j hj).1)
      (fun hc => (h.connecting hc).2) h.fetching fun hc => (h.closed hc).2
    rw [getElem?_updated hi] at hj
    split_ifs at hj with hij
    · rw [← Option.some.inj hj, hdead] at hlive
      exact Bool.noConfusion hlive
    · refine (h.owner j l hj hlive).resolve_left fun hcurrent => hij ?_
      exact Option.some.inj (hws.symm.trans hcurrent)
  unfold WsClient.onclose
  rw [clearConnectTimer_eq]
  · dsimp only [stopPing]
    split_ifs
    · exact hlost
    · exact hlost.scheduleReconnect
  · exact fun j hj => (h.timed j hj).2

/-- The handlers of an error have returned. -/
lemma Sound.afterError (h : s.Sound) {fs : List Frame} (hframes : s.frames = .afterError :: fs) :
    Sound ({ s with frames := fs }.afterError o) := by
  unfold WsClient.afterError
  split_ifs with hcond
  · obtain ⟨hopen, -⟩ : s.isOpen = false ∧ s.closed = false := by simpa using hcond
    rw [clearConnectTimer_eq]
    · refine Sound.scheduleReconnect (Sound.of_none rfl hopen ?_ rfl ?_ ?_ ?_ ?_ h.fetching ?_)
      · by_contra hping
        have := h.pinging (by simpa using hping)
        rw [hopen] at this
        exact Bool.noConfusion this
      · -- The current socket is not in use: it has failed before it was open.
        intro j l hj hlive
        rcases h.owner j l hj hlive with hcurrent | hframe
        · obtain ⟨l', hl', -, -, hphase⟩ := h.current j hcurrent
          obtain rfl := Option.some.inj (hj.symm.trans hl')
          rcases hphase with ⟨-, hnot⟩ | ⟨-, hopen'⟩ | ⟨hfailed, -⟩
          · exact absurd (hframes ▸ List.mem_cons_self) hnot
          · rw [hopen] at hopen'
            exact Bool.noConfusion hopen'
          · rw [Socket.live_iff, hfailed] at hlive
            simp at hlive
        · rw [hframes] at hframe
          exact (List.mem_cons.mp hframe).resolve_left Frame.noConfusion
      · intro j j' hj hj'
        exact (h.closing j (hframes ▸ List.mem_cons_of_mem _ hj)).2 j'
          (hframes ▸ List.mem_cons_of_mem _ hj')
      · exact fun j hj => (h.registering j hj).1
      · exact fun hc => (h.connecting hc).2
      · exact fun hc => (h.closed hc).2
    · exact fun j hj => (h.timed j hj).2
  · refine h.pop hframes (fun j => Frame.noConfusion) fun _ => ?_
    cases hopen : s.isOpen with
    | true => exact .inr rfl
    | false => exact .inl (h.closed (by simpa [hopen] using hcond)).1

lemma Sound.connectTimeout (h : s.Sound) (hi : i ∈ s.connectTimers) (hframes : s.frames = []) :
    (s.connectTimeout i).Sound := by
  obtain ⟨hws, htimer⟩ := h.timed i hi
  unfold WsClient.connectTimeout
  dsimp only
  split_ifs with hcond
  · exact { h with timed := fun j hj => h.timed j (List.mem_filter.mp hj).1 }
  · obtain ⟨hopen, -⟩ : s.isOpen = false ∧ s.closed = false := by simpa [hws] using hcond
    refine Sound.of_none rfl hopen ?_ ?_ (fun j l hj hlive => ?_) (fun j j' hj hj' => ?_)
      (fun j hj => (h.registering j hj).1) (fun hc => (h.connecting hc).2) h.fetching
      fun hc => (h.closed hc).2
    · by_contra hping
      have := h.pinging (by simpa using hping)
      rw [hopen] at this
      exact Bool.noConfusion this
    · refine List.filter_eq_nil_iff.mpr fun j hj => ?_
      simpa using Option.some.inj ((h.timed j hj).2.symm.trans htimer)
    · rcases h.owner j l hj hlive with hcurrent | hframe
      · obtain rfl := Option.some.inj (hws.symm.trans hcurrent)
        exact List.mem_cons_of_mem _ List.mem_cons_self
      · simp [hframes] at hframe
    · simp [hframes] at hj hj'
      rw [hj, hj']

lemma Sound.registrationResolved (h : s.Sound) (hi : i ∈ s.registering) :
    (s.registrationResolved i).Sound := by
  have hdone : Sound { s with registering := s.registering.filter (· != i) } :=
    { h with registering := fun j hj => h.registering j (List.mem_filter.mp hj).1 }
  unfold WsClient.registrationResolved
  dsimp only
  split_ifs with hcond
  · exact hdone
  · obtain ⟨hws, -⟩ : s.ws = some i ∧ s.closed = false := by simpa using hcond
    exact { hdone with pinging := fun _ => (h.registering i hi).2 hws }

lemma Sound.registrationRejected (h : s.Sound) (hframes : s.frames = []) :
    (s.registrationRejected i).Sound := by
  have hdone : Sound { s with registering := s.registering.filter (· != i) } :=
    { h with registering := fun j hj => h.registering j (List.mem_filter.mp hj).1 }
  unfold WsClient.registrationRejected
  dsimp only
  split_ifs with hcond
  · exact hdone
  · obtain ⟨hws, -⟩ : s.ws = some i ∧ s.closed = false := by simpa using hcond
    exact { hdone with
      current := fun j hj => by
        obtain ⟨k, hk, hattached, hclosing, hphase⟩ := h.current j hj
        refine ⟨k, hk, hattached, hclosing, ?_⟩
        simpa [hframes] using hphase
      owner := fun j l hj hlive => (h.owner j l hj hlive).imp_right (List.mem_cons_of_mem _)
      closing := fun j hj => by
        simp only [hframes, List.mem_singleton, Frame.closeSocket.injEq] at hj
        subst hj
        refine ⟨fun j' hj' => Option.some.inj (hws.symm.trans hj'), fun j' hj' => ?_⟩
        simp only [hframes, List.mem_singleton, Frame.closeSocket.injEq] at hj'
        exact hj'.symm }

lemma Sound.ping (h : s.Sound) : s.ping.Sound := by
  unfold WsClient.ping startPing
  split_ifs with hopen
  · exact { h with pinging := fun _ => hopen }
  · exact { h with pinging := fun hp => Bool.noConfusion hp }

lemma Sound.reconnectTimeout (h : s.Sound) : s.reconnectTimeout.Sound := by
  have hcleared : s.clearReconnectTimer.Sound :=
    { h with
      connecting := fun hc => ⟨(h.connecting hc).1, rfl⟩
      waiting := fun hw => Bool.noConfusion hw
      closed := fun hc => ⟨(h.closed hc).1, (h.closed hc).2.1, rfl⟩ }
  exact hcleared.connect fun _ _ => rfl

/-! ## Events -/

/-- An event of a socket, which reaches the client through its handlers. -/
lemma Sound.deliver (h : s.Sound) {k k' : Socket} {e : SocketEvent} (hi : s.sockets[i]? = some k)
    (hk : k.after e = some k') (hframes : s.frames = []) :
    Sound ({ s with sockets := s.sockets.set i k' }.deliver o i e) := by
  unfold WsClient.deliver
  split_ifs with hother
  · exact h.updateOther hi hk (by simpa using hother)
  · have hws : s.ws = some i := by simpa using hother
    cases e with
    | opening =>
      obtain ⟨-, rfl⟩ := Socket.after_opening hk
      exact h.handleOpen hws hi
    | message =>
      simp only [Socket.after] at hk
      split_ifs at hk
      obtain rfl := Option.some.inj hk
      rw [set_same hi]
      exact h
    | error => exact h.error hws hi hk hframes
    | close => exact h.onclose hws hi hk hframes

/-- A socket that is no longer the current one is closed. -/
lemma Sound.closeSocket (h : s.Sound) {fs : List Frame} (hframes : s.frames = .closeSocket i :: fs)
    (hws : s.ws ≠ some i) :
    Sound { s with frames := fs, sockets := s.sockets.modify i Socket.close } := by
  have hmem : ∀ g, g ∈ fs → g ∈ s.frames := fun g hg => hframes ▸ List.mem_cons_of_mem _ hg
  have hafter : .afterError ∈ s.frames ↔ .afterError ∈ fs := by simp [hframes]
  have hkept : ∀ j, s.ws = some j → (s.sockets.modify i Socket.close)[j]? = s.sockets[j]? := by
    intro j hj
    have hne : i ≠ j := by
      rintro rfl
      exact hws hj
    simp [hne]
  exact { h with
    current := fun j hj => by
      obtain ⟨k, hk, hattached, hclosing, hphase⟩ := h.current j hj
      rw [hafter] at hphase
      exact ⟨k, (hkept j hj).trans hk, hattached, hclosing, hphase⟩
    owner := fun j l hj hlive => by
      obtain ⟨l₀, hl₀, rfl⟩ := getElem?_modified.mp hj
      split_ifs at hlive with hij
      · simp at hlive
      · refine (h.owner j l₀ hl₀ hlive).imp_right fun hframe => ?_
        rw [hframes] at hframe
        exact (List.mem_cons.mp hframe).resolve_left fun heq =>
          hij (Frame.closeSocket.inj heq).symm
    closing := fun j hj => ⟨(h.closing j (hmem _ hj)).1, fun j' hj' =>
      (h.closing j (hmem _ hj)).2 j' (hmem _ hj')⟩
    opened := fun hopen => by
      obtain ⟨j, l, hj, hl, hphase⟩ := h.opened hopen
      exact ⟨j, l, hj, (hkept j hj).trans hl, hphase⟩
    registering := fun j hj => by simpa using h.registering j hj }

/-- What goes on after the handlers. -/
lemma Sound.resume (h : s.Sound) {f : Frame} {fs : List Frame} (hframes : s.frames = f :: fs)
    (horderly : s.orderly .resume = true) : Sound ({ s with frames := fs }.resume o f) := by
  cases f with
  | scheduleReconnect =>
    exact (h.pop hframes (fun i => Frame.noConfusion) Frame.noConfusion).scheduleReconnect
  | setReconnectTimer =>
    have hpop := h.pop hframes (fun i => Frame.noConfusion) Frame.noConfusion
    obtain ⟨⟨hws, hconnecting⟩, hclosed⟩ :
        (s.ws = none ∧ s.connecting = false) ∧ s.closed = false := by
      simpa [orderly, hframes, atRest] using horderly
    exact { hpop with
      connecting := fun hc => absurd (hconnecting.symm.trans hc) Bool.false_ne_true
      waiting := fun _ => hws
      closed := fun hc => absurd (hclosed.symm.trans hc) Bool.false_ne_true }
  | closeSocket i => exact h.closeSocket hframes (by simpa [orderly, hframes] using horderly)
  | afterError => exact h.afterError hframes

/-- **Every orderly event keeps the client in good order.** -/
lemma Sound.step (h : s.Sound) (horderly : s.orderly e = true) (hstep : s.step o e = some s') :
    s'.Sound := by
  cases e with
  | connect =>
    obtain rfl := Option.some.inj hstep
    refine h.connect fun hws hconnecting => ?_
    simpa [orderly, atRest, hws, hconnecting] using horderly
  | disconnect =>
    obtain rfl := Option.some.inj hstep
    exact h.disconnect
  | reconnect =>
    obtain rfl := Option.some.inj hstep
    exact h.reconnect
  | resume =>
    cases hframes : s.frames with
    | nil => simp [WsClient.step, hframes] at hstep
    | cons f fs =>
      simp only [WsClient.step, hframes, Option.some.injEq] at hstep
      subst hstep
      exact h.resume hframes horderly
  | tokenResolved k constructed =>
    simp only [WsClient.step, react, Option.ite_none_right_eq_some, Option.some.injEq] at hstep
    obtain ⟨hframes, hk, rfl⟩ := hstep
    exact h.tokenResolved hk hframes horderly
  | tokenRejected k =>
    simp only [WsClient.step, react, Option.ite_none_right_eq_some, Option.some.injEq] at hstep
    obtain ⟨-, hk, rfl⟩ := hstep
    exact h.tokenRejected hk horderly
  | registrationResolved i =>
    simp only [WsClient.step, react, Option.ite_none_right_eq_some, Option.some.injEq] at hstep
    obtain ⟨-, hi, rfl⟩ := hstep
    exact h.registrationResolved hi
  | registrationRejected i =>
    simp only [WsClient.step, react, Option.ite_none_right_eq_some, Option.some.injEq] at hstep
    obtain ⟨hframes, -, rfl⟩ := hstep
    exact h.registrationRejected hframes
  | socket i e =>
    simp only [WsClient.step, react, Option.ite_none_right_eq_some] at hstep
    obtain ⟨hframes, hreact⟩ := hstep
    split at hreact
    · exact absurd hreact.symm (Option.some_ne_none _)
    · next k hi =>
      obtain ⟨k', hk, rfl⟩ := Option.map_eq_some_iff.mp hreact
      split_ifs with hattached
      · exact h.deliver hi hk hframes
      · refine h.updateOther hi hk fun hws => hattached ?_
        obtain ⟨l, hl, hattached, -⟩ := h.current i hws
        rwa [Option.some.inj (hi.symm.trans hl)]
  | connectTimeout i =>
    simp only [WsClient.step, react, Option.ite_none_right_eq_some, Option.some.injEq] at hstep
    obtain ⟨hframes, hi, rfl⟩ := hstep
    exact h.connectTimeout hi hframes
  | reconnectTimeout =>
    simp only [WsClient.step, react, Option.ite_none_right_eq_some, Option.some.injEq] at hstep
    obtain ⟨-, -, rfl⟩ := hstep
    exact h.reconnectTimeout
  | ping =>
    simp only [WsClient.step, react, Option.ite_none_right_eq_some, Option.some.injEq] at hstep
    obtain ⟨-, -, rfl⟩ := hstep
    exact h.ping

/-! ## After `disconnect()` -/

/-- A closed client stays closed and opens no socket, until it is told to connect. -/
lemma Sound.closed_step (h : s.Sound) (hclosed : s.closed = true)
    (he : e ≠ .connect ∧ e ≠ .reconnect) (hstep : s.step o e = some s') :
    s'.closed = true ∧ s'.sockets.length = s.sockets.length := by
  obtain ⟨hws, -, htimer⟩ := h.closed hclosed
  cases e with
  | connect => exact absurd rfl he.1
  | reconnect => exact absurd rfl he.2
  | disconnect =>
    obtain rfl := Option.some.inj hstep
    rw [h.disconnect_eq]
    exact ⟨rfl, detachSocket_length s⟩
  | resume =>
    cases hframes : s.frames with
    | nil => simp [WsClient.step, hframes] at hstep
    | cons f fs =>
      simp only [WsClient.step, hframes, Option.some.injEq] at hstep
      subst hstep
      cases f with
      | scheduleReconnect => simp [WsClient.resume, WsClient.scheduleReconnect, hclosed]
      | setReconnectTimer => exact ⟨hclosed, rfl⟩
      | closeSocket i => exact ⟨hclosed, List.length_modify ..⟩
      | afterError => simp [WsClient.resume, WsClient.afterError, hclosed]
  | tokenResolved k constructed =>
    simp only [WsClient.step, react, Option.ite_none_right_eq_some, Option.some.injEq] at hstep
    obtain ⟨-, -, rfl⟩ := hstep
    simp [WsClient.tokenResolved, WsClient.settled, hclosed]
  | tokenRejected k =>
    simp only [WsClient.step, react, Option.ite_none_right_eq_some, Option.some.injEq] at hstep
    obtain ⟨-, -, rfl⟩ := hstep
    simp [WsClient.openFailed, WsClient.settled, hclosed]
  | registrationResolved i =>
    simp only [WsClient.step, react, Option.ite_none_right_eq_some, Option.some.injEq] at hstep
    obtain ⟨-, -, rfl⟩ := hstep
    simp [WsClient.registrationResolved, hclosed]
  | registrationRejected i =>
    simp only [WsClient.step, react, Option.ite_none_right_eq_some, Option.some.injEq] at hstep
    obtain ⟨-, -, rfl⟩ := hstep
    simp [WsClient.registrationRejected, hclosed]
  | socket i e =>
    simp only [WsClient.step, react, Option.ite_none_right_eq_some] at hstep
    obtain ⟨-, hreact⟩ := hstep
    split at hreact
    · exact absurd hreact.symm (Option.some_ne_none _)
    · obtain ⟨k', -, rfl⟩ := Option.map_eq_some_iff.mp hreact
      split_ifs
      · simp [WsClient.deliver, hws, hclosed]
      · exact ⟨hclosed, List.length_set ..⟩
  | connectTimeout i =>
    simp only [WsClient.step, react, Option.ite_none_right_eq_some, Option.some.injEq] at hstep
    obtain ⟨-, -, rfl⟩ := hstep
    simp [WsClient.connectTimeout, hclosed]
  | reconnectTimeout => simp [WsClient.step, react, htimer] at hstep
  | ping =>
    simp only [WsClient.step, react, Option.ite_none_right_eq_some, Option.some.injEq] at hstep
    obtain ⟨-, -, rfl⟩ := hstep
    unfold WsClient.ping startPing
    split_ifs <;> exact ⟨hclosed, rfl⟩

/-! ## Every orderly run -/

variable {es : List WsEvent}

/-- The events of the run are orderly. -/
def Orderly (o : WsClientOptions) (s : WsClient) (es : List WsEvent) : Prop :=
  Along (step o) (fun s e => s.orderly e = true) s es

lemma sound_run (h : s.Sound) (horderly : Orderly o s es) (hrun : run (step o) s es = some s') :
    s'.Sound :=
  along_induction (fun _ _ _ h horderly hstep => h.step horderly hstep) h horderly hrun

/-- **A client owns one socket in every orderly run.** -/
theorem ownership_of_orderly (o : WsClientOptions) {es : List WsEvent} {s : WsClient}
    (hrun : run (step o) start es = some s) (horderly : Orderly o start es) :
    Ownership o es s where
  owned := by
    have hsound := sound_run sound_start horderly hrun
    exact hsound.owned fun i k hws _ hi => hsound.open_current i k hws hi
  disconnected before after s₁ hes hafter hs₁ := by
    rw [hes, List.append_cons] at hrun horderly
    obtain ⟨s₁', hs₁', hrest⟩ := run_append.mp hrun
    obtain rfl := Option.some.inj (hs₁.symm.trans hs₁')
    obtain ⟨hbefore, hlater⟩ := along_append.mp horderly
    have hsound₁ := sound_run sound_start hbefore hs₁
    have hclosed₁ : s₁.closed = true := by
      obtain ⟨s₀, hs₀, hlast⟩ := run_append.mp hs₁
      have hsound₀ := sound_run sound_start (along_append.mp hbefore).1 hs₀
      obtain ⟨s₁', hdisconnect, hnil⟩ := run_cons.mp hlast
      obtain rfl := Option.some.inj hnil
      obtain rfl := Option.some.inj hdisconnect
      rw [hsound₀.disconnect_eq]
      rfl
    -- From there on the client is closed, with the sockets that it has.
    obtain ⟨hsound, hclosed, hlength⟩ := along_induction
      (I := fun s : WsClient => s.Sound ∧ s.closed = true ∧
        s.sockets.length = s₁.sockets.length)
      (fun s e s' hI he hstep => by
        obtain ⟨hclosed, hlength⟩ := hI.1.closed_step hI.2.1 he.2 hstep
        exact ⟨hI.1.step he.1 hstep, hclosed, hlength.trans hI.2.2⟩)
      ⟨hsound₁, hclosed₁, rfl⟩ ((hlater s₁ hs₁).and hafter) hrest
    obtain ⟨hws, -, htimer⟩ := hsound.closed hclosed
    obtain ⟨-, hping, htimers⟩ := hsound.noTimers hws
    exact ⟨hlength, htimer, htimers, hping⟩

/-! ### A reconnect in a hurry -/

/-- No node is registered, and reconnecting goes on for ever. -/
def plainOptions : WsClientOptions := ⟨none, 30, false⟩

/-- A socket is lost and replaced after a while; then the client is disconnected. -/
def lostAndReplaced : List WsEvent :=
  [.connect, .tokenResolved 0 true, .socket 0 .opening, .socket 0 .close, .resume,
    .reconnectTimeout, .tokenResolved 1 true, .socket 1 .opening, .ping, .disconnect]

/-- The client is disconnected and connected again before its first token has arrived. -/
def reconnectedInAHurry : List WsEvent :=
  [.connect, .disconnect, .connect, .tokenResolved 0 true, .tokenResolved 1 true]

/-- A socket that is lost is replaced, and none is left in the end. -/
theorem ownership_of_orderly_lostAndReplaced : ∃ s,
    run (step plainOptions) start lostAndReplaced = some s ∧
      Ownership plainOptions lostAndReplaced s := by
  have hrun : (run (step plainOptions) start lostAndReplaced).isSome = true := by decide +kernel
  obtain ⟨s, hs⟩ := Option.isSome_iff_exists.mp hrun
  have horderly : Along (step plainOptions) (fun s e => s.orderly e = true) start
      lostAndReplaced := by decide +kernel
  exact ⟨s, hs, ownership_of_orderly plainOptions hs horderly⟩

/-- **Both tokens open a socket.** -/
theorem not_ownership_reconnectedInAHurry :
    ¬ ∀ (o : WsClientOptions) (es : List WsEvent) (s : WsClient),
      run (step o) start es = some s → Ownership o es s := by
  intro h
  have hrun : (run (step plainOptions) start reconnectedInAHurry).isSome = true := by
    decide +kernel
  obtain ⟨s, hs⟩ := Option.isSome_iff_exists.mp hrun
  have hsockets : s.sockets = [Socket.created, Socket.created] := by
    have := congrArg (Option.map sockets) hs
    exact (Option.some.inj this).symm
  have hone := (h plainOptions reconnectedInAHurry s hs).owned.one 0 1 Socket.created
    Socket.created (by rw [hsockets]; rfl) (by rw [hsockets]; rfl) rfl rfl
  exact absurd hone (by decide)

end WsClient

end Sdk
