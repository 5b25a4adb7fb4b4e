import Relaycast.Sdk.NodeProvider

/-!
# What a node provider leaves behind

The promise of `serve()` settles once; there is one socket and one reconnect timer at most; and once
`stop()` has resolved, or `serve()` was rejected, nothing is left.

`stop()` stops the heartbeat before it awaits the handlers that are running, and it goes on
receiving frames while it does.  `onRegistered` does not ask whether the provider was stopped
meanwhile, so that a reply which accepts the registration then starts the heartbeat again, and
nothing stops it any more.  `lifecycle_of_orderly` says that nothing else goes wrong.
-/

namespace Sdk.NodeProvider

open Reactive

/-- The engine has answered the register request. -/
def Job.isAnswer : Job → Bool
  | .registered .. | .failed (.registration ..) => true
  | .failed (.other _) => false

/-- The provider is about to stop by itself. -/
def Frame.isFinal : Frame → Bool
  | .giveUp | .refuse .. => true
  | .scheduleReconnect | .reconnect => false

namespace Provider

/-! ## What is claimed -/

/-- `stop()` has resolved, or `serve()` was rejected. -/
def Ended (s : Provider) : Prop := 0 < s.stopsDone ∨ ∃ e, .rejected e ∈ s.serveSettled

/-- Why `serve()` may be rejected: the registration was, or there are no attempts left. -/
def Terminal (o : Options) (s : Provider) (e : Failure) : Prop :=
  (∃ message code, e = .registration message code ∧ s.registrationRejected = true) ∨
    e = exhausted ∧ o.any (· ≤ s.reconnectAttempt) = true

/-- What holds of a provider at any moment. -/
structure Kept (o : Options) (s : Provider) : Prop where
  once : s.serveSettled.length ≤ 1
  resolved : .resolved ∈ s.serveSettled → 0 < s.stopCalls
  rejected : ∀ e, .rejected e ∈ s.serveSettled → Terminal o s e
  one_socket : ∀ (i j : SocketId) (k l : Socket), s.sockets[i]? = some k → s.sockets[j]? = some l →
    k.live = true → l.live = true → i = j
  one_timer : s.reconnectTimer.running.length ≤ 1
  /-- A heartbeat runs while the registration of the current socket is accepted. -/
  heartbeat : s.heartbeatTimer.running ≠ [] →
    s.registered = true ∧ ∃ i, s.ws = some i ∧ i ∈ s.acceptedOn
  /-- Nothing is left in the end. -/
  ended : s.Ended → s.registerSettled ≠ [] ∧
    (∀ (i : SocketId) (k : Socket), s.sockets[i]? = some k → k.live = false) ∧
      s.reconnectTimer.running = [] ∧ s.heartbeatTimer.running = []

/-- What holds of a run from `s₀` that ends in `s`. -/
structure Lifecycle (o : Options) (s₀ : Provider) (es : List Event) (s : Provider) : Prop where
  kept : s.Kept o
  /-- Nothing is created after the end. -/
  after : ∀ before after s₁, es = before ++ after → run (step o) s₀ before = some s₁ →
    s₁.Ended → s.sockets.length = s₁.sockets.length ∧
      s.reconnectTimer.created = s₁.reconnectTimer.created ∧
        s.heartbeatTimer.created = s₁.heartbeatTimer.created

/-! ## Where it holds -/

/-- A stopped provider handles no reply that accepts its registration. -/
def orderly (s : Provider) : Event → Bool
  | .job =>
    match s.jobs with
    | .registered _ names reply :: _ => !s.stopped || !(judge reply names matches .ok _)
    | _ => true
  | _ => true

/-! ## The invariant -/

/-- What holds at any moment of an orderly run. -/
structure Sound (o : Options) (s : Provider) : Prop where
  current : ∀ i, s.ws = some i → ∃ k, s.sockets[i]? = some k ∧ k.attached = true
  owner : ∀ (i : SocketId) (k : Socket), s.sockets[i]? = some k → k.live = true → s.ws = some i
  reconnect_kept : s.reconnectTimer.Kept
  heartbeat_kept : s.heartbeatTimer.Kept
  waiting : s.reconnectTimer.handle ≠ none → s.ws = none ∧ s.stopped = false
  beating : s.heartbeatTimer.handle ≠ none →
    s.registered = true ∧ s.stopped = false ∧ ∃ i, s.ws = some i ∧ i ∈ s.acceptedOn
  /-- The request that is pending is the only one, and was sent on the current socket. -/
  pending : ∀ i names, s.pending = some (i, names) →
    s.ws = some i ∧ s.registered = false ∧ s.jobs = []
  /-- A socket that connects is not registered yet. -/
  connecting : ∀ (i : SocketId) (k : Socket), s.ws = some i → s.sockets[i]? = some k →
    k.phase = .connecting → s.pending = none ∧ s.registered = false ∧ s.jobs = []
  jobs : s.jobs.length ≤ 1
  busy : s.jobs ≠ [] → s.registered = false ∨ s.stopped = true
  answered : ∀ i names reply, .registered i names reply ∈ s.jobs → s.ws = some i ∨ s.stopped = true
  answer : ∀ j ∈ s.jobs, j.isAnswer = true → s.reconnectTimer.handle = none
  frames : s.frames.length ≤ 1
  framed : s.frames ≠ [] → s.pending = none ∧ (s.registered = false ∨ s.stopped = true) ∧
    ∀ j ∈ s.jobs, j.isAnswer = false
  idle : .scheduleReconnect ∈ s.frames ∨ .giveUp ∈ s.frames → s.ws = none
  final : ∀ f ∈ s.frames, f.isFinal = true → s.reconnectTimer.handle = none
  refusing : ∀ message code, .refuse message code ∈ s.frames →
    s.registrationRejected = true ∧ s.registerOpen = false
  exhausting : .giveUp ∈ s.frames → o.any (· ≤ s.reconnectAttempt) = true
  stopped : s.stopped = true → 0 < s.stopCalls ∨ s.serveOpen = false
  draining : s.draining ≠ [] → s.stopped = true ∧ 0 < s.stopCalls
  serve_once : s.serveSettled.length = if s.serveOpen then 0 else 1
  register_once : s.registerSettled.length = if s.registerOpen then 0 else 1
  resolved : .resolved ∈ s.serveSettled → 0 < s.stopCalls
  rejected : ∀ e, .rejected e ∈ s.serveSettled → Terminal o s e
  ended : s.Ended → s.stopped = true ∧ s.ws = none ∧ s.registerOpen = false

variable {o : Options} {s s' : Provider} {i : SocketId}

/-- A provider in good order is in the state that is claimed. -/
lemma Sound.kept (h : s.Sound o) : s.Kept o where
  once := by
    rw [h.serve_once]
    split <;> omega
  resolved := h.resolved
  rejected := h.rejected
  one_socket i j k l hi hj hk hl :=
    Option.some.inj ((h.owner i k hi hk).symm.trans (h.owner j l hj hl))
  one_timer := by
    rw [show s.reconnectTimer.running = _ from h.reconnect_kept]
    cases s.reconnectTimer.handle <;> simp
  heartbeat hrunning := by
    obtain ⟨hregistered, -, hws⟩ := h.beating (h.heartbeat_kept.running_eq_nil.not.mp hrunning)
    exact ⟨hregistered, hws⟩
  ended hended := by
    obtain ⟨hstopped, hws, hregister⟩ := h.ended hended
    refine ⟨fun hnil => ?_, fun i k hi => ?_, ?_, ?_⟩
    · have hlength := h.register_once
      simp [hnil, hregister] at hlength
    · by_contra hlive
      have hcurrent := h.owner i k hi (by simpa using hlive)
      rw [hws] at hcurrent
      exact absurd hcurrent.symm (Option.some_ne_none i)
    · rw [h.reconnect_kept.running_eq_nil]
      by_contra hhandle
      have := (h.waiting hhandle).2
      rw [hstopped] at this
      exact Bool.noConfusion this
    · rw [h.heartbeat_kept.running_eq_nil]
      by_contra hhandle
      have := (h.beating hhandle).2.1
      rw [hstopped] at this
      exact Bool.noConfusion this

/-- Without a current socket there is no heartbeat, no request and nothing to register. -/
lemma Sound.of_ws_none (h : s.Sound o) (hws : s.ws = none) :
    s.heartbeatTimer.handle = none ∧ s.pending = none := by
  constructor
  · by_contra hhandle
    obtain ⟨-, -, i, hi, -⟩ := h.beating hhandle
    rw [hws] at hi
    exact absurd hi.symm (Option.some_ne_none i)
  · by_contra hpending
    obtain ⟨⟨i, names⟩, hsome⟩ := Option.ne_none_iff_exists'.mp hpending
    have hi := (h.pending i names hsome).1
    rw [hws] at hi
    exact absurd hi.symm (Option.some_ne_none i)

lemma Sound.no_heartbeat (h : s.Sound o) (hidle : s.registered = false ∨ s.stopped = true) :
    s.heartbeatTimer.handle = none := by
  by_contra hhandle
  obtain ⟨hregistered, hstopped, -⟩ := h.beating hhandle
  rcases hidle with hidle | hidle
  · exact absurd (hidle.symm.trans hregistered) Bool.false_ne_true
  · exact absurd (hstopped.symm.trans hidle) Bool.false_ne_true

lemma Sound.no_timer (h : s.Sound o) (hstopped : s.stopped = true) :
    s.reconnectTimer.handle = none := by
  by_contra hhandle
  exact absurd ((h.waiting hhandle).2.symm.trans hstopped) Bool.false_ne_true

/-! ## Promises -/

lemma settleServe_eq (s : Provider) (outcome : Outcome) : s.settleServe outcome =
    { s with
      serveOpen := false
      serveSettled := if s.serveOpen then outcome :: s.serveSettled else s.serveSettled } := by
  unfold settleServe
  split_ifs
  · rfl
  · cases s
    simp_all

lemma settleRegister_eq (s : Provider) (outcome : Outcome) : s.settleRegister outcome =
    { s with
      registerOpen := false
      registerSettled :=
        if s.registerOpen then outcome :: s.registerSettled else s.registerSettled } := by
  unfold settleRegister
  split_ifs
  · rfl
  · cases s
    simp_all

lemma Sound.settleRegister (h : s.Sound o) (outcome : Outcome) :
    (s.settleRegister outcome).Sound o := by
  rw [settleRegister_eq]
  exact { h with
    refusing := fun message code hmem => ⟨(h.refusing message code hmem).1, rfl⟩
    register_once := by
      have hlength := h.register_once
      cases hopen : s.registerOpen <;> simp [hopen] at hlength ⊢ <;> exact hlength
    ended := fun hended => ⟨(h.ended hended).1, (h.ended hended).2.1, rfl⟩ }

/-- `serve()` resolves. -/
lemma Sound.settleServe (h : s.Sound o) (hstop : 0 < s.stopCalls) :
    (s.settleServe .resolved).Sound o := by
  have hmem : ∀ e, .rejected e ∈ (if s.serveOpen then Outcome.resolved :: s.serveSettled
      else s.serveSettled) → .rejected e ∈ s.serveSettled := by
    intro e he
    split at he
    · exact (List.mem_cons.mp he).resolve_left Outcome.noConfusion
    · exact he
  rw [settleServe_eq]
  exact { h with
    stopped := fun _ => .inl hstop
    serve_once := by
      have hlength := h.serve_once
      cases hopen : s.serveOpen <;> simp [hopen] at hlength ⊢ <;> exact hlength
    resolved := fun _ => hstop
    rejected := fun e he => h.rejected e (hmem e he)
    ended := fun hended => h.ended (hended.imp_right fun ⟨e, he⟩ => ⟨e, hmem e he⟩) }

/-- The provider stops by itself, and `serve()` is rejected. -/
lemma Sound.fail (h : s.Sound o) {e : Failure} (hws : s.ws = none)
    (htimer : s.reconnectTimer.handle = none) (hregister : s.registerOpen = false)
    (he : Terminal o s e) : ({ s with stopped := true }.settleServe (.rejected e)).Sound o := by
  have hmem : ∀ outcome, outcome ∈ (if s.serveOpen then Outcome.rejected e :: s.serveSettled
      else s.serveSettled) → outcome = .rejected e ∨ outcome ∈ s.serveSettled := by
    intro outcome hmem
    split at hmem
    · exact List.mem_cons.mp hmem
    · exact .inr hmem
  rw [settleServe_eq]
  exact { h with
    waiting := fun hhandle => absurd htimer hhandle
    beating := fun hhandle => absurd (h.of_ws_none hws).1 hhandle
    busy := fun _ => .inr rfl
    answered := fun _ _ _ _ => .inr rfl
    framed := fun hframes => ⟨(h.framed hframes).1, .inr rfl, (h.framed hframes).2.2⟩
    stopped := fun _ => .inr rfl
    draining := fun hne => ⟨rfl, (h.draining hne).2⟩
    serve_once := by
      have hlength := h.serve_once
      cases hopen : s.serveOpen <;> simp [hopen] at hlength ⊢ <;> exact hlength
    resolved := fun hres => h.resolved ((hmem _ hres).resolve_left Outcome.noConfusion)
    rejected := fun e' he' => by
      rcases hmem _ he' with heq | he'
      · obtain rfl := Outcome.rejected.inj heq
        exact he
      · exact h.rejected e' he'
    ended := fun _ => ⟨rfl, hws, hregister⟩ }

lemma rejectPending_eq (s : Provider) (e : Failure) : s.rejectPending e =
    { s with pending := none, jobs := (s.rejectPending e).jobs } := by
  unfold rejectPending
  split
  · next hpending =>
    cases s
    simp_all
  · rfl

lemma rejectPending_jobs (hjobs : s.jobs = []) {e : Failure} :
    ∀ j ∈ (s.rejectPending e).jobs, j = .failed e := by
  unfold rejectPending
  split <;> simp [hjobs]

/-- The pending request is rejected for a reason of the transport. -/
lemma Sound.rejectPending (h : s.Sound o) (message : String) :
    (s.rejectPending (.other message)).Sound o := by
  unfold Provider.rejectPending
  split
  · exact h
  · next request hpending =>
    obtain ⟨hws, hregistered, hjobs⟩ := h.pending request.1 request.2 hpending
    have hmem : ∀ j, j ∈ s.jobs ++ [.failed (.other message)] → j = .failed (.other message) := by
      intro j hj
      simpa [hjobs] using hj
    exact { h with
      pending := fun i names hsome => absurd hsome.symm (Option.some_ne_none _)
      connecting := fun i k hi hk hphase => by
        have := (h.connecting i k hi hk hphase).1
        rw [hpending] at this
        exact absurd this (Option.some_ne_none _)
      jobs := by simp [hjobs]
      busy := fun _ => .inl hregistered
      answered := fun i names reply hj => Job.noConfusion (hmem _ hj)
      answer := fun j hj hanswer => by
        rw [hmem j hj] at hanswer
        exact Bool.noConfusion hanswer
      framed := fun hframes => by
        have := (h.framed hframes).1
        rw [hpending] at this
        exact absurd this (Option.some_ne_none _) }

/-! ## Stopping -/

lemma closeSocket_eq (s : Provider) :
    s.closeSocket = { s with sockets := s.closeSocket.sockets, ws := none } := by
  unfold closeSocket
  split
  · next hws =>
    cases s
    simp_all
  · rfl

lemma closeSocket_length (s : Provider) : s.closeSocket.sockets.length = s.sockets.length := by
  unfold closeSocket
  split
  · rfl
  · exact List.length_modify ..

/-- No socket is in use once the current one is closed. -/
lemma Sound.closed_owner (h : s.Sound o) (i : SocketId) (k : Socket)
    (hi : s.closeSocket.sockets[i]? = some k) : k.live = false := by
  by_contra hlive
  have hlive : k.live = true := by simpa using hlive
  unfold closeSocket at hi
  split at hi
  · next hws =>
    exact absurd ((h.owner i k hi hlive).symm.trans hws) (Option.some_ne_none i)
  · next j hws =>
    obtain ⟨k₀, hi₀, rfl⟩ := getElem?_modified.mp hi
    split_ifs at hlive with hij
    · exact Bool.noConfusion hlive
    · exact hij (Option.some.inj (hws.symm.trans (h.owner i k₀ hi₀ hlive)))

/-- Closing the socket of a provider that has no heartbeat and no request on it. -/
lemma Sound.closeSocket (h : s.Sound o) (hbeat : s.heartbeatTimer.handle = none)
    (hpending : s.pending = none)
    (hjobs : ∀ i names reply, .registered i names reply ∈ s.jobs → s.stopped = true) :
    s.closeSocket.Sound o := by
  rw [closeSocket_eq]
  exact { h with
    current := fun i hi => absurd hi.symm (Option.some_ne_none i)
    owner := fun i k hi hlive => absurd (h.closed_owner i k hi) (by simp [hlive])
    waiting := fun hhandle => ⟨rfl, (h.waiting hhandle).2⟩
    beating := fun hhandle => absurd hbeat hhandle
    pending := fun i names hsome => absurd (hpending.symm.trans hsome).symm (Option.some_ne_none _)
    connecting := fun i k hi => absurd hi.symm (Option.some_ne_none i)
    answered := fun i names reply hj => .inr (hjobs i names reply hj)
    idle := fun _ => rfl
    ended := fun hended => ⟨(h.ended hended).1, rfl, (h.ended hended).2.2⟩ }

lemma Sound.finishStop (h : s.Sound o) (hstopped : s.stopped = true) (hcalls : 0 < s.stopCalls) :
    s.finishStop.Sound o := by
  have hrejected := (h.settleRegister (.rejected (.other "node provider stopped"))).rejectPending
    "node provider stopped"
  rw [settleRegister_eq, rejectPending_eq] at hrejected
  have hclosed := hrejected.closeSocket (hrejected.no_heartbeat (.inr hstopped)) rfl
    fun _ _ _ _ => hstopped
  rw [closeSocket_eq] at hclosed
  unfold Provider.finishStop
  dsimp only
  rw [settleRegister_eq, rejectPending_eq, closeSocket_eq]
  refine Sound.settleServe ?_ hcalls
  exact { hclosed with
    beating := fun hhandle => absurd (hclosed.of_ws_none rfl).1 hhandle
    pending := fun i names hsome => absurd hsome.symm (Option.some_ne_none _)
    connecting := fun i k hi => absurd hi.symm (Option.some_ne_none i)
    busy := fun _ => .inl rfl
    framed := fun hframes => ⟨rfl, .inl rfl, (hclosed.framed hframes).2.2⟩
    ended := fun _ => ⟨hstopped, rfl, rfl⟩ }

/-- Handlers come and go. -/
lemma Sound.withTasks (h : s.Sound o) {tasks : List TaskId} {next : TaskId} :
    Sound o { s with invokeTasks := tasks, nextTask := next } :=
  { h with }

lemma Sound.stop (h : s.Sound o) : s.stop.Sound o := by
  obtain ⟨hreconnect, hnone⟩ := h.reconnect_kept.clear
  obtain ⟨hheartbeat, hsilent⟩ := h.heartbeat_kept.clear
  have hstopping : Sound o
      { s with
        stopped := true
        stopCalls := s.stopCalls + 1
        reconnectTimer := s.reconnectTimer.clear
        heartbeatTimer := s.heartbeatTimer.clear } :=
    { h with
      reconnect_kept := hreconnect
      heartbeat_kept := hheartbeat
      waiting := fun hhandle => absurd hnone hhandle
      beating := fun hhandle => absurd hsilent hhandle
      busy := fun _ => .inr rfl
      answered := fun _ _ _ _ => .inr rfl
      answer := fun _ _ _ => hnone
      framed := fun hframes => ⟨(h.framed hframes).1, .inr rfl, (h.framed hframes).2.2⟩
      final := fun _ _ _ => hnone
      stopped := fun _ => .inl (Nat.succ_pos _)
      draining := fun _ => ⟨rfl, Nat.succ_pos _⟩
      resolved := fun _ => Nat.succ_pos _
      ended := fun hended => ⟨rfl, (h.ended hended).2⟩ }
  unfold Provider.stop clearReconnect stopHeartbeat
  dsimp only
  split_ifs
  · exact hstopping.finishStop rfl (Nat.succ_pos _)
  · exact { hstopping with draining := fun _ => ⟨rfl, Nat.succ_pos _⟩ }

/-! ## Reconnecting -/

/-- `scheduleReconnect` of a provider that has lost its socket. -/
lemma Sound.scheduleReconnect (h : s.Sound o) (hws : s.ws = none)
    (hidle : s.registered = false ∨ s.stopped = true)
    (hanswers : ∀ j ∈ s.jobs, j.isAnswer = false) (hframes : s.frames = []) :
    (s.scheduleReconnect o).Sound o := by
  unfold Provider.scheduleReconnect
  split_ifs with hset hexhausted
  · exact h
  · obtain ⟨-, htimer⟩ : s.stopped = false ∧ s.reconnectTimer.handle = none := by
      simpa using hset
    exact { h with
      frames := by simp [hframes]
      framed := fun _ => ⟨(h.of_ws_none hws).2, hidle, hanswers⟩
      idle := fun _ => hws
      final := fun _ _ _ => htimer
      refusing := fun message code hmem =>
        h.refusing message code ((List.mem_cons.mp hmem).resolve_left Frame.noConfusion)
      exhausting := fun _ => hexhausted }
  · obtain ⟨hstopped, htimer⟩ : s.stopped = false ∧ s.reconnectTimer.handle = none := by
      simpa using hset
    have hrejected : ∀ e, .rejected e ∈ s.serveSettled → s.stopped = true := fun e he =>
      (h.ended (.inr ⟨e, he⟩)).1
    exact { h with
      reconnect_kept := h.reconnect_kept.set htimer
      waiting := fun _ => ⟨hws, hstopped⟩
      answer := fun j hj hanswer => absurd (hanswers j hj) (by simp [hanswer])
      final := fun f hf => by simp [hframes] at hf
      exhausting := fun hgive => by simp [hframes] at hgive
      rejected := fun e he => absurd (hstopped.symm.trans (hrejected e he)) Bool.false_ne_true }

/-- Without a job and a frame `scheduleReconnect` only asks for the socket to be gone. -/
lemma Sound.openSocket (h : s.Sound o) (hws : s.ws = none) (hjobs : s.jobs = [])
    (htimer : s.reconnectTimer.handle = none) (hframes : s.frames = []) (constructed : Bool) :
    (s.openSocket constructed).Sound o := by
  obtain ⟨hbeat, hpending⟩ := h.of_ws_none hws
  unfold Provider.openSocket
  split_ifs with hstopped
  · exact h
  · have hstopped : s.stopped = false := by simpa using hstopped
    exact { h with
      current := fun i hi => by
        obtain rfl := Option.some.inj hi
        exact ⟨Socket.created, getElem?_created.mpr (.inr ⟨rfl, rfl⟩), rfl⟩
      owner := fun i k hi hlive => by
        rcases getElem?_created.mp hi with hi | ⟨rfl, -⟩
        · exact absurd ((h.owner i k hi hlive).symm.trans hws) (Option.some_ne_none i)
        · rfl
      waiting := fun hhandle => absurd htimer hhandle
      beating := fun hhandle => absurd hbeat hhandle
      pending := fun i names hsome =>
        absurd (hpending.symm.trans hsome).symm (Option.some_ne_none _)
      connecting := fun _ _ _ _ _ => ⟨hpending, rfl, hjobs⟩
      busy := fun hne => absurd hjobs hne
      answered := fun i names reply hj => by simp [hjobs] at hj
      framed := fun hne => absurd hframes hne
      idle := fun hidle => by simp [hframes] at hidle
      ended := fun hended =>
        absurd (hstopped.symm.trans (h.ended hended).1) Bool.false_ne_true }
  · exact { h with
      beating := fun hhandle => absurd hbeat hhandle
      pending := fun i names hsome =>
        absurd (hpending.symm.trans hsome).symm (Option.some_ne_none _)
      connecting := fun i k hi => absurd (hws.symm.trans hi).symm (Option.some_ne_none i)
      busy := fun _ => .inl rfl
      frames := by simp [hframes]
      framed := fun _ => ⟨hpending, .inl rfl, by simp [hjobs]⟩
      idle := fun _ => hws
      final := fun _ _ _ => htimer
      refusing := fun message code hmem => by simp [hframes] at hmem
      exhausting := fun hgive => by simp [hframes] at hgive }

lemma Sound.reconnectTimeout (h : s.Sound o) {n : ℕ} (hn : n ∈ s.reconnectTimer.running)
    (hjobs : s.jobs = []) (hframes : s.frames = []) (constructed : Bool) :
    (s.reconnectTimeout n constructed).Sound o := by
  obtain ⟨hkept, hhandle⟩ := h.reconnect_kept.fire hn
  have hws := (h.waiting (by rw [hhandle]; exact Option.some_ne_none n)).1
  have hfired : Sound o { s with reconnectTimer := s.reconnectTimer.fire n } :=
    { h with
      reconnect_kept := hkept
      waiting := fun hne => absurd rfl hne
      answer := fun _ _ _ => rfl
      final := fun _ _ _ => rfl }
  exact hfired.openSocket hws hjobs rfl hframes constructed

/-! ## Jobs -/

/-- The first job is taken from the list. -/
lemma Sound.popJob (h : s.Sound o) {j : Job} {js : List Job} (hjobs : s.jobs = j :: js) :
    js = [] ∧ Sound o { s with jobs := js } := by
  have hlength := h.jobs
  rw [hjobs, List.length_cons] at hlength
  have hnil : js = [] := List.eq_nil_of_length_eq_zero (by omega)
  subst hnil
  exact ⟨rfl, { h with
    pending := fun i names hsome => ⟨(h.pending i names hsome).1, (h.pending i names hsome).2.1, rfl⟩
    connecting := fun i k hi hk hphase =>
      ⟨(h.connecting i k hi hk hphase).1, (h.connecting i k hi hk hphase).2.1, rfl⟩
    jobs := Nat.zero_le _
    busy := fun hne => absurd rfl hne
    answered := fun i names reply hj => absurd hj List.not_mem_nil
    answer := fun j hj => absurd hj List.not_mem_nil
    framed := fun hframes => ⟨(h.framed hframes).1, (h.framed hframes).2.1, by simp⟩ }⟩

lemma Sound.onRegisterFailed (h : s.Sound o) (e : Failure) (hjobs : s.jobs = [])
    (hframes : s.frames = []) (hpending : s.pending = none)
    (hidle : s.registered = false ∨ s.stopped = true)
    (htimer : ∀ message code, e = .registration message code → s.reconnectTimer.handle = none) :
    (s.onRegisterFailed e).Sound o := by
  cases e with
  | registration message code =>
    have hrejecting : Sound o { s with registrationRejected := true } :=
      { h with
        refusing := fun message code hmem => by simp [hframes] at hmem
        rejected := fun e he => (h.rejected e he).imp_left
          fun ⟨message, code, heq, _⟩ => ⟨message, code, heq, rfl⟩ }
    have hsettled := hrejecting.settleRegister (.rejected (.registration message code))
    unfold Provider.onRegisterFailed
    dsimp only
    rw [settleRegister_eq] at hsettled ⊢
    exact { hsettled with
      frames := by simp [hframes]
      framed := fun _ => ⟨hpending, hidle, by simp [hjobs]⟩
      idle := fun hmem => by simp [hframes] at hmem
      final := fun _ _ _ => htimer message code rfl
      refusing := fun _ _ _ => ⟨rfl, rfl⟩
      exhausting := fun hmem => by simp [hframes] at hmem }
  | other message =>
    unfold Provider.onRegisterFailed
    exact { h with
      frames := by simp [hframes]
      framed := fun _ => ⟨hpending, hidle, by simp [hjobs]⟩
      idle := fun hmem => by simp [hframes] at hmem
      final := fun f hf hfinal => by
        simp only [hframes, List.mem_singleton] at hf
        rw [hf] at hfinal
        exact Bool.noConfusion hfinal
      refusing := fun message code hmem => by simp [hframes] at hmem
      exhausting := fun hmem => by simp [hframes] at hmem }

/-- The registration is accepted, on the current socket. -/
lemma Sound.accept (h : s.Sound o) (hws : s.ws = some i) (hstopped : s.stopped = false)
    (hjobs : s.jobs = []) (hframes : s.frames = []) (hpending : s.pending = none)
    (hphase : ∀ k : Socket, s.sockets[i]? = some k → k.phase ≠ .connecting) :
    (s.accept i).Sound o := by
  have haccepted : Sound o
      { s with
        registered := true
        reconnectAttempt := 0
        acceptedOn := i :: s.acceptedOn
        heartbeatTimer := s.heartbeatTimer.clear.set } :=
    { h with
      heartbeat_kept := h.heartbeat_kept.clear.1.set h.heartbeat_kept.clear.2
      beating := fun _ => ⟨rfl, hstopped, i, hws, List.mem_cons_self⟩
      pending := fun i names hsome =>
        absurd (hpending.symm.trans hsome).symm (Option.some_ne_none _)
      connecting := fun j k hj hk hconnecting => by
        obtain rfl := Option.some.inj (hws.symm.trans hj)
        exact absurd hconnecting (hphase k hk)
      busy := fun hne => absurd hjobs hne
      framed := fun hne => absurd hframes hne
      exhausting := fun hmem => by simp [hframes] at hmem
      rejected := fun e he =>
        absurd (hstopped.symm.trans (h.ended (.inr ⟨e, he⟩)).1) Bool.false_ne_true }
  exact haccepted.settleRegister .resolved

lemma Sound.runJob (h : s.Sound o) {j : Job} {js : List Job} (hjobs : s.jobs = j :: js)
    (hframes : s.frames = []) (horderly : s.orderly .job = true) :
    ({ s with jobs := js }.runJob j).Sound o := by
  have hj : j ∈ s.jobs := hjobs ▸ List.mem_cons_self
  obtain ⟨rfl, hpopped⟩ := h.popJob hjobs
  have hne : s.jobs ≠ [] := by simp [hjobs]
  have hpending : s.pending = none := by
    by_contra hpending
    obtain ⟨⟨i, names⟩, hsome⟩ := Option.ne_none_iff_exists'.mp hpending
    exact hne (h.pending i names hsome).2.2
  have hidle := h.busy hne
  cases j with
  | registered i names reply =>
    show ((({ s with jobs := [] } : Provider).onRegistered i names reply)).Sound o
    unfold onRegistered
    split
    · next hok =>
      -- The reply accepts, and the provider was not stopped.
      have hstopped : s.stopped = false := by
        simpa [orderly, hjobs, hok] using horderly
      have hws : s.ws = some i := by
        refine (h.answered i names reply hj).resolve_right fun hstop => ?_
        exact absurd (hstopped.symm.trans hstop) Bool.false_ne_true
      refine hpopped.accept hws hstopped rfl hframes hpending fun k hk hphase => ?_
      exact hne (h.connecting i k hws hk hphase).2.2
    · exact hpopped.onRegisterFailed _ rfl hframes hpending hidle fun _ _ _ => h.answer _ hj rfl
    · next message _ =>
      exact { hpopped with
        pending := fun i names hsome =>
          absurd (hpending.symm.trans hsome).symm (Option.some_ne_none _)
        connecting := fun i k hi hk hphase =>
          absurd (h.connecting i k hi hk hphase).2.2 hne
        jobs := Nat.le_refl 1
        busy := fun _ => hidle
        answered := fun i names reply hmem => by simp at hmem
        answer := fun j hmem hanswer => by
          simp only [List.nil_append, List.mem_singleton] at hmem
          rw [hmem] at hanswer
          exact Bool.noConfusion hanswer
        framed := fun hne => absurd hframes hne }
  | failed e =>
    refine hpopped.onRegisterFailed e rfl hframes hpending hidle ?_
    rintro message code rfl
    exact h.answer _ hj rfl

/-! ## What goes on after `onError` -/

/-- The frame is taken off. -/
lemma Sound.popFrame (h : s.Sound o) {f : Frame} {fs : List Frame} (hframes : s.frames = f :: fs) :
    fs = [] ∧ Sound o { s with frames := fs } := by
  have hlength := h.frames
  rw [hframes, List.length_cons] at hlength
  have hnil : fs = [] := List.eq_nil_of_length_eq_zero (by omega)
  subst hnil
  exact ⟨rfl, { h with
    frames := Nat.zero_le _
    framed := fun hne => absurd rfl hne
    idle := fun hmem => by simp at hmem
    final := fun f hf => absurd hf List.not_mem_nil
    refusing := fun _ _ hmem => absurd hmem List.not_mem_nil
    exhausting := fun hmem => absurd hmem List.not_mem_nil }⟩

lemma Sound.giveUp (h : s.Sound o) (hws : s.ws = none) (htimer : s.reconnectTimer.handle = none)
    (hexhausted : o.any (· ≤ s.reconnectAttempt) = true) : s.giveUp.Sound o := by
  have hsettled := h.settleRegister (.rejected exhausted)
  unfold Provider.giveUp
  rw [settleRegister_eq] at hsettled ⊢
  exact hsettled.fail hws htimer rfl (.inr ⟨rfl, hexhausted⟩)

lemma Sound.resume (h : s.Sound o) {f : Frame} {fs : List Frame} (hframes : s.frames = f :: fs) :
    ({ s with frames := fs }.resume o f).Sound o := by
  have hf : f ∈ s.frames := hframes ▸ List.mem_cons_self
  obtain ⟨rfl, hpopped⟩ := h.popFrame hframes
  obtain ⟨hpending, hidle, hanswers⟩ := h.framed (by simp [hframes])
  have hclosed : (({ s with frames := [] } : Provider).closeSocket).Sound o :=
    hpopped.closeSocket (h.no_heartbeat hidle) hpending fun i names reply hj =>
      absurd (hanswers _ hj) (by simp [Job.isAnswer])
  cases f with
  | scheduleReconnect =>
    exact hpopped.scheduleReconnect (h.idle (.inl hf)) hidle hanswers rfl
  | giveUp =>
    exact hpopped.giveUp (h.idle (.inr hf)) (h.final _ hf rfl) (h.exhausting hf)
  | reconnect =>
    show (({ s with frames := [] } : Provider).dropAndReconnect o).Sound o
    unfold dropAndReconnect
    split_ifs
    · exact hpopped
    · rw [closeSocket_eq] at hclosed ⊢
      exact hclosed.scheduleReconnect rfl hidle hanswers rfl
  | refuse message code =>
    show (({ s with frames := [] } : Provider).refuse message code).Sound o
    obtain ⟨hrejected, hregister⟩ := h.refusing message code hf
    unfold refuse
    rw [closeSocket_eq] at hclosed ⊢
    dsimp only
    split_ifs
    · exact hclosed
    · exact hclosed.fail rfl (h.final _ hf rfl) hregister (.inl ⟨message, code, rfl, hrejected⟩)

/-! ## Callbacks -/

lemma Sound.sendRegister (h : s.Sound o) (hws : s.ws = some i) (hframes : s.frames = [])
    (hjobs : s.jobs = []) (hpending : s.pending = none) (hregistered : s.registered = false)
    (hphase : ∀ k : Socket, s.sockets[i]? = some k → k.phase ≠ .connecting)
    (names : List String) (sent : Bool) : (s.sendRegister i names sent).Sound o := by
  have hserving : ∀ e, .rejected e ∉ s.serveSettled := by
    intro e he
    exact absurd ((h.ended (.inr ⟨e, he⟩)).2.1.symm.trans hws).symm (Option.some_ne_none i)
  have hsending : Sound o { s with registrationRejected := false } :=
    { h with
      refusing := fun _ _ hmem => by simp [hframes] at hmem
      rejected := fun e he => absurd he (hserving e) }
  unfold Provider.sendRegister
  dsimp only
  split_ifs
  · exact { hsending with
      pending := fun j names' hsome => by
        obtain ⟨rfl, -⟩ := Prod.mk.inj (Option.some.inj hsome)
        exact ⟨hws, hregistered, hjobs⟩
      connecting := fun j k hj hk hconnecting => by
        obtain rfl := Option.some.inj (hws.symm.trans hj)
        exact absurd hconnecting (hphase k hk)
      framed := fun hne => absurd hframes hne }
  · have hmem : ∀ j, j ∈ s.jobs ++ [.failed (.other "node provider websocket is not open")] →
        j = .failed (.other "node provider websocket is not open") := by
      intro j hj
      simpa [hjobs] using hj
    exact { hsending with
      pending := fun i names hsome =>
        absurd (hpending.symm.trans hsome).symm (Option.some_ne_none _)
      connecting := fun j k hj hk hconnecting => by
        obtain rfl := Option.some.inj (hws.symm.trans hj)
        exact absurd hconnecting (hphase k hk)
      jobs := by simp [hjobs]
      busy := fun _ => .inl hregistered
      answered := fun i names reply hj => Job.noConfusion (hmem _ hj)
      answer := fun j hj hanswer => by
        rw [hmem j hj] at hanswer
        exact Bool.noConfusion hanswer
      framed := fun hne => absurd hframes hne }

/-- The engine answers the request. -/
lemma Sound.answerPending (h : s.Sound o) {names : List String} {j : Job}
    (hpending : s.pending = some (i, names)) (hframes : s.frames = [])
    (hj : ∀ i' names' reply, j = .registered i' names' reply → i' = i) :
    Sound o { s with pending := none, jobs := s.jobs ++ [j] } := by
  obtain ⟨hws, hregistered, hjobs⟩ := h.pending i names hpending
  have hmem : ∀ j', j' ∈ s.jobs ++ [j] → j' = j := by
    intro j' hj'
    simpa [hjobs] using hj'
  exact { h with
    pending := fun i names hsome => absurd hsome.symm (Option.some_ne_none _)
    connecting := fun i' k hi' hk hphase => by
      have := (h.connecting i' k hi' hk hphase).1
      rw [hpending] at this
      exact absurd this (Option.some_ne_none _)
    jobs := by simp [hjobs]
    busy := fun _ => .inl hregistered
    answered := fun i' names' reply hmem' => by
      obtain rfl := hj i' names' reply (hmem _ hmem').symm
      exact .inl hws
    answer := fun _ _ _ => by
      by_contra hhandle
      exact absurd ((h.waiting hhandle).1.symm.trans hws).symm (Option.some_ne_none i)
    framed := fun hne => absurd hframes hne }

lemma Sound.onmessage (h : s.Sound o) (hframes : s.frames = []) (m : Message) :
    (s.onmessage m).Sound o := by
  cases m with
  | reply data =>
    unfold Provider.onmessage
    dsimp only
    split
    · exact h
    · next i names hpending =>
      exact h.answerPending hpending hframes fun _ _ _ heq => (Job.registered.inj heq).1.symm
  | error message code =>
    unfold Provider.onmessage
    dsimp only
    split
    · exact h
    · next request hpending =>
      obtain ⟨i, names⟩ := request
      exact h.answerPending hpending hframes fun _ _ _ heq => Job.noConfusion heq
  | invoke =>
    unfold Provider.onmessage
    split_ifs
    · exact h
    · exact h.withTasks
  | other => exact h

/-- The current socket is gone. -/
lemma Sound.lost (h : s.Sound o) {k k' : Socket} (hws : s.ws = some i)
    (hi : s.sockets[i]? = some k) (hk : k.after .close = some k') (hframes : s.frames = [])
    (hjobs : s.jobs = []) (message : String) : Sound o
      { s with
        sockets := s.sockets.set i k'
        ws := none
        heartbeatTimer := s.heartbeatTimer.clear
        registered := false
        pending := none
        jobs := (s.rejectPending (.other message)).jobs } := by
  obtain ⟨hkept, hsilent⟩ := h.heartbeat_kept.clear
  have hrejected := h.rejectPending message
  have hmem := rejectPending_jobs hjobs (e := .other message)
  rw [rejectPending_eq] at hrejected
  have hdead : k'.live = false := by
    simp only [Socket.after] at hk
    split_ifs at hk
    rw [← Option.some.inj hk]
    simp [Socket.live]
  exact { hrejected with
    current := fun j hj => absurd hj.symm (Option.some_ne_none j)
    owner := fun j l hj hlive => by
      rw [getElem?_updated hi] at hj
      split_ifs at hj with hij
      · rw [← Option.some.inj hj, hdead] at hlive
        exact Bool.noConfusion hlive
      · exact absurd (Option.some.inj (hws.symm.trans (h.owner j l hj hlive))) hij
    heartbeat_kept := hkept
    waiting := fun hhandle => ⟨rfl, (h.waiting hhandle).2⟩
    beating := fun hhandle => absurd hsilent hhandle
    pending := fun _ _ hsome => absurd hsome.symm (Option.some_ne_none _)
    connecting := fun j l hj => absurd hj.symm (Option.some_ne_none j)
    busy := fun _ => .inl rfl
    answered := fun i names reply hj => Job.noConfusion (hmem _ hj)
    framed := fun hne => absurd hframes hne
    idle := fun _ => rfl
    ended := fun hended => ⟨(h.ended hended).1, rfl, (h.ended hended).2.2⟩ }

lemma Sound.onclose (h : s.Sound o) {k k' : Socket} (hws : s.ws = some i)
    (hi : s.sockets[i]? = some k) (hk : k.after .close = some k') (hframes : s.frames = [])
    (hjobs : s.jobs = []) :
    (({ s with sockets := s.sockets.set i k' } : Provider).onclose o).Sound o := by
  have hlost := h.lost hws hi hk hframes hjobs "node provider connection closed"
  have hmem := rejectPending_jobs hjobs (e := .other "node provider connection closed")
  have hsame : ∀ t : Provider, t.pending = s.pending → t.jobs = s.jobs →
      (t.rejectPending (.other "node provider connection closed")).jobs =
        (s.rejectPending (.other "node provider connection closed")).jobs := by
    intro t hpending hjobs
    unfold Provider.rejectPending
    rw [hpending, hjobs]
    cases s.pending <;> simp [hjobs]
  unfold Provider.onclose stopHeartbeat
  dsimp only
  rw [rejectPending_eq, hsame]
  · split_ifs with hstopped
    · rcases h.stopped hstopped with hcalls | hclosed
      · exact hlost.settleServe hcalls
      · rw [Provider.settleServe, if_neg (by simp [hclosed])]
        exact hlost
    · exact hlost
    · refine hlost.scheduleReconnect rfl (.inl rfl) (fun j hj => ?_) hframes
      rw [hmem j hj]
      rfl
  · rfl
  · rfl

/-! ## Events -/

/-- A socket that is not the current one moves on. -/
lemma Sound.updateOther (h : s.Sound o) {k k' : Socket} {e : SocketEvent}
    (hi : s.sockets[i]? = some k) (hk : k.after e = some k') (hws : s.ws ≠ some i) :
    Sound o { s with sockets := s.sockets.set i k' } := by
  have hkept : ∀ j, s.ws = some j → (s.sockets.set i k')[j]? = s.sockets[j]? := by
    intro j hj
    rw [getElem?_updated hi, if_neg]
    rintro rfl
    exact hws hj
  exact { h with
    current := fun j hj => by
      rw [hkept j hj]
      exact h.current j hj
    owner := fun j l hj hlive => by
      rw [getElem?_updated hi] at hj
      split_ifs at hj with hij
      · obtain rfl := Option.some.inj hj
        obtain rfl := hij
        exact h.owner i k hi (Socket.live_of_after hk hlive)
      · exact h.owner j l hj hlive
    connecting := fun j l hj hl => by
      rw [hkept j hj] at hl
      exact h.connecting j l hj hl }

/-- The current socket moves on, but does not go back to connecting. -/
lemma Sound.updateCurrent (h : s.Sound o) {k k' : Socket} {e : SocketEvent} (hws : s.ws = some i)
    (hi : s.sockets[i]? = some k) (hk : k.after e = some k') :
    Sound o { s with sockets := s.sockets.set i k' } := by
  have hset : (s.sockets.set i k')[i]? = some k' := by rw [getElem?_updated hi, if_pos rfl]
  exact { h with
    current := fun j hj => by
      obtain rfl := Option.some.inj (hws.symm.trans hj)
      obtain ⟨l, hl, hattached⟩ := h.current i hws
      obtain rfl := Option.some.inj (hi.symm.trans hl)
      exact ⟨k', hset, (Socket.after_frame hk).1.trans hattached⟩
    owner := fun j l hj hlive => by
      rw [getElem?_updated hi] at hj
      split_ifs at hj with hij
      · exact hij ▸ hws
      · exact h.owner j l hj hlive
    connecting := fun j l hj hl hphase => by
      obtain rfl := Option.some.inj (hws.symm.trans hj)
      obtain rfl := Option.some.inj (hset.symm.trans hl)
      exact h.connecting i k hws hi (Socket.connecting_of_after hk hphase) }

/-- What an event of a socket leaves, if its handler keeps the provider in good order. -/
lemma Sound.deliver (h : s.Sound o) {e : SocketEvent} {handler : Provider → Provider}
    (hhandler : ∀ k k', s.ws = some i → s.sockets[i]? = some k → k.after e = some k' →
      (handler { s with sockets := s.sockets.set i k' }).Sound o)
    (hstep : s.deliver i e handler = some s') : s'.Sound o := by
  unfold Provider.deliver at hstep
  split at hstep
  · exact absurd hstep.symm (Option.some_ne_none _)
  · next k hi =>
    obtain ⟨k', hk, rfl⟩ := Option.map_eq_some_iff.mp hstep
    dsimp only
    split_ifs with hreaches
    · have hws : s.ws = some i := by simpa using (Bool.and_eq_true_iff.mp hreaches).2
      exact hhandler k k' hws hi hk
    · refine h.updateOther hi hk fun hws => hreaches ?_
      obtain ⟨l, hl, hattached⟩ := h.current i hws
      obtain rfl := Option.some.inj (hi.symm.trans hl)
      simp [hattached, hws]

lemma Sound.react (h : s.Sound o) (hframes : s.frames = []) (hjobs : s.jobs = []) {e : Event}
    (hstep : s.react o e = some s') : s'.Sound o := by
  cases e with
  | stop | resume | job | drained | finished => exact absurd hstep.symm (Option.some_ne_none _)
  | opening i names sent =>
    unfold Provider.react at hstep
    refine h.deliver (fun k k' hws hi hk => ?_) hstep
    obtain ⟨hphase, rfl⟩ := Socket.after_opening hk
    obtain ⟨hpending, hregistered, -⟩ := h.connecting i k hws hi hphase
    refine (h.updateCurrent hws hi hk).sendRegister hws hframes hjobs hpending hregistered
      (fun l hl => ?_) names sent
    have hset := (getElem?_updated hi).symm.trans hl
    rw [if_pos rfl] at hset
    rw [← Option.some.inj hset]
    exact SocketPhase.noConfusion
  | message i m =>
    unfold Provider.react at hstep
    exact h.deliver (fun k k' hws hi hk => (h.updateCurrent hws hi hk).onmessage hframes m) hstep
  | error i =>
    unfold Provider.react at hstep
    exact h.deliver (fun k k' hws hi hk => h.updateCurrent hws hi hk) hstep
  | close i =>
    unfold Provider.react at hstep
    exact h.deliver (fun k k' hws hi hk => h.onclose hws hi hk hframes hjobs) hstep
  | reconnectTimeout n constructed =>
    simp only [Provider.react, Option.ite_none_right_eq_some, Option.some.injEq] at hstep
    obtain ⟨hn, rfl⟩ := hstep
    exact h.reconnectTimeout hn hjobs hframes constructed
  | heartbeat n =>
    simp only [Provider.react, Option.ite_none_right_eq_some, Option.some.injEq] at hstep
    obtain ⟨-, rfl⟩ := hstep
    exact h

/-- **Every orderly event keeps the provider in good order.** -/
lemma Sound.step (h : s.Sound o) {e : Event} (horderly : s.orderly e = true)
    (hstep : s.step o e = some s') : s'.Sound o := by
  cases e with
  | stop =>
    obtain rfl := Option.some.inj hstep
    exact h.stop
  | resume =>
    cases hframes : s.frames with
    | nil => simp [Provider.step, hframes] at hstep
    | cons f fs =>
      simp only [Provider.step, hframes, Option.some.injEq] at hstep
      subst hstep
      exact h.resume hframes
  | job =>
    cases hframes : s.frames with
    | cons f fs => simp [Provider.step, hframes] at hstep
    | nil =>
      cases hjobs : s.jobs with
      | nil => simp [Provider.step, hframes, hjobs] at hstep
      | cons j js =>
        simp only [Provider.step, hframes, hjobs, Option.some.injEq] at hstep
        subst hstep
        have hrun := h.runJob hjobs hframes horderly
        rwa [hframes] at hrun
  | drained n timedOut =>
    cases hframes : s.frames with
    | cons f fs => simp [Provider.step, hframes] at hstep
    | nil =>
      cases htasks : s.draining[n]? with
      | none => simp [Provider.step, hframes, htasks] at hstep
      | some tasks =>
        simp only [Provider.step, hframes, htasks, Option.ite_none_right_eq_some,
          Option.some.injEq] at hstep
        obtain ⟨-, rfl⟩ := hstep
        have hne : s.draining ≠ [] := List.ne_nil_of_mem (List.mem_of_getElem? htasks)
        obtain ⟨hstopped, hcalls⟩ := h.draining hne
        have hdrained : Sound o { s with draining := s.draining.eraseIdx n } :=
          { h with draining := fun _ => ⟨hstopped, hcalls⟩ }
        exact hframes ▸ hdrained.finishStop hstopped hcalls
  | finished t =>
    simp only [Provider.step, Option.ite_none_right_eq_some, Option.some.injEq] at hstep
    obtain ⟨-, rfl⟩ := hstep
    exact h.withTasks
  | opening | message | error | close | reconnectTimeout | heartbeat =>
    simp only [Provider.step, Option.ite_none_right_eq_some] at hstep
    obtain ⟨⟨hframes, hjobs⟩, hreact⟩ := hstep
    exact h.react hframes hjobs hreact

/-! ## After the end -/

/-- What was created so far. -/
def created (s : Provider) : ℕ × ℕ × ℕ :=
  (s.sockets.length, s.reconnectTimer.created, s.heartbeatTimer.created)

/-- What happens to a provider that has come to its end. -/
structure Resting (s s' : Provider) : Prop where
  created : s'.created = s.created
  stopsDone : s.stopsDone ≤ s'.stopsDone
  serveSettled : ∀ outcome ∈ s.serveSettled, outcome ∈ s'.serveSettled

lemma Resting.ended (h : Resting s s') (hended : s.Ended) : s'.Ended := by
  rcases hended with hdone | ⟨e, he⟩
  · exact .inl (Nat.lt_of_lt_of_le hdone h.stopsDone)
  · exact .inr ⟨e, h.serveSettled _ he⟩

lemma mem_settled (s : Provider) (outcome : Outcome) :
    ∀ x ∈ s.serveSettled, x ∈ if s.serveOpen then outcome :: s.serveSettled else s.serveSettled := by
  intro x hx
  split
  · exact List.mem_cons_of_mem _ hx
  · exact hx

lemma clear_created (t : Timer) : t.clear.created = t.created := by
  unfold Timer.clear
  split <;> rfl

lemma resting_finishStop (s : Provider) : Resting s s.finishStop := by
  unfold finishStop
  dsimp only
  rw [settleRegister_eq, rejectPending_eq, closeSocket_eq, settleServe_eq]
  exact ⟨by simp [Provider.created, closeSocket_length], Nat.le_succ _, mem_settled s _⟩

lemma resting_stop (s : Provider) : Resting s s.stop := by
  unfold stop clearReconnect stopHeartbeat
  dsimp only
  split_ifs
  · have hfinish := resting_finishStop
      { s with
        stopped := true
        stopCalls := s.stopCalls + 1
        reconnectTimer := s.reconnectTimer.clear
        heartbeatTimer := s.heartbeatTimer.clear }
    refine ⟨hfinish.created.trans ?_, hfinish.stopsDone, hfinish.serveSettled⟩
    simp [Provider.created, clear_created]
  · exact ⟨by simp [Provider.created, clear_created], Nat.le_refl _, fun _ h => h⟩

lemma resting_onRegisterFailed (s : Provider) (e : Failure) : Resting s (s.onRegisterFailed e) := by
  cases e with
  | registration message code =>
    unfold onRegisterFailed
    dsimp only
    rw [settleRegister_eq]
    exact ⟨rfl, Nat.le_refl _, fun _ h => h⟩
  | other message => exact ⟨rfl, Nat.le_refl _, fun _ h => h⟩

/-- The handlers of a provider without a socket are not reached. -/
lemma resting_deliver {e : SocketEvent} {handler : Provider → Provider} (hws : s.ws = none)
    (hstep : s.deliver i e handler = some s') : Resting s s' := by
  unfold deliver at hstep
  split at hstep
  · exact absurd hstep.symm (Option.some_ne_none _)
  · obtain ⟨k', -, rfl⟩ := Option.map_eq_some_iff.mp hstep
    dsimp only
    rw [if_neg (by simp [hws])]
    exact ⟨by simp [Provider.created], Nat.le_refl _, fun _ h => h⟩

lemma Sound.resting (h : s.Sound o) (hended : s.Ended) {e : Event}
    (horderly : s.orderly e = true) (hstep : s.step o e = some s') : Resting s s' := by
  obtain ⟨hstopped, hws, -⟩ := h.ended hended
  cases e with
  | stop =>
    obtain rfl := Option.some.inj hstep
    exact resting_stop s
  | resume =>
    cases hframes : s.frames with
    | nil => simp [Provider.step, hframes] at hstep
    | cons f fs =>
      simp only [Provider.step, hframes, Option.some.injEq] at hstep
      subst hstep
      cases f with
      | scheduleReconnect =>
        simp only [Provider.resume, Provider.scheduleReconnect, hstopped, Bool.true_or, if_true]
        exact ⟨rfl, Nat.le_refl _, fun _ h => h⟩
      | giveUp =>
        simp only [Provider.resume, Provider.giveUp]
        rw [settleRegister_eq, settleServe_eq]
        exact ⟨rfl, Nat.le_refl _, mem_settled s _⟩
      | reconnect =>
        simp only [Provider.resume, dropAndReconnect, hstopped, if_true]
        exact ⟨rfl, Nat.le_refl _, fun _ h => h⟩
      | refuse message code =>
        simp only [Provider.resume, refuse]
        rw [closeSocket_eq, if_pos hstopped]
        exact ⟨by simp [Provider.created, closeSocket_length], Nat.le_refl _, fun _ h => h⟩
  | job =>
    cases hframes : s.frames with
    | cons f fs => simp [Provider.step, hframes] at hstep
    | nil =>
      cases hjobs : s.jobs with
      | nil => simp [Provider.step, hframes, hjobs] at hstep
      | cons j js =>
        simp only [Provider.step, hframes, hjobs, Option.some.injEq] at hstep
        subst hstep
        cases j with
        | registered i names reply =>
          show Resting s (onRegistered _ i names reply)
          unfold onRegistered
          split
          · next hok => simp [orderly, hjobs, hok, hstopped] at horderly
          · next message code _ =>
            have hfailed := resting_onRegisterFailed { s with jobs := js, frames := [] }
              (.registration message code)
            exact ⟨hfailed.created, hfailed.stopsDone, hfailed.serveSettled⟩
          · exact ⟨rfl, Nat.le_refl _, fun _ h => h⟩
        | failed e =>
          have hfailed := resting_onRegisterFailed { s with jobs := js, frames := [] } e
          exact ⟨hfailed.created, hfailed.stopsDone, hfailed.serveSettled⟩
  | drained n timedOut =>
    cases hframes : s.frames with
    | cons f fs => simp [Provider.step, hframes] at hstep
    | nil =>
      cases htasks : s.draining[n]? with
      | none => simp [Provider.step, hframes, htasks] at hstep
      | some tasks =>
        simp only [Provider.step, hframes, htasks, Option.ite_none_right_eq_some,
          Option.some.injEq] at hstep
        obtain ⟨-, rfl⟩ := hstep
        have hfinish := resting_finishStop
          { s with draining := s.draining.eraseIdx n, frames := [] }
        exact ⟨hfinish.created, hfinish.stopsDone, hfinish.serveSettled⟩
  | finished t =>
    simp only [Provider.step, Option.ite_none_right_eq_some, Option.some.injEq] at hstep
    obtain ⟨-, rfl⟩ := hstep
    exact ⟨rfl, Nat.le_refl _, fun _ h => h⟩
  | opening | message | error | close =>
    simp only [Provider.step, Option.ite_none_right_eq_some] at hstep
    have hreact := hstep.2
    unfold Provider.react at hreact
    exact resting_deliver hws hreact
  | reconnectTimeout n constructed =>
    simp only [Provider.step, Provider.react, Option.ite_none_right_eq_some] at hstep
    obtain ⟨-, hn, -⟩ := hstep
    rw [h.reconnect_kept.running_eq_nil.mpr (h.no_timer hstopped)] at hn
    exact absurd hn List.not_mem_nil
  | heartbeat n =>
    simp only [Provider.step, Provider.react, Option.ite_none_right_eq_some,
      Option.some.injEq] at hstep
    obtain ⟨-, -, rfl⟩ := hstep
    exact ⟨rfl, Nat.le_refl _, fun _ h => h⟩

/-! ## Every orderly run -/

lemma sound_serve (o : Options) (constructed : Bool) : (serve constructed).Sound o := by
  have hsettled : ∀ e, ¬ Outcome.rejected e ∈ ({ fresh with
      serveOpen := true, registerOpen := true } : Provider).serveSettled := fun e h => by
    simp [fresh] at h
  have hfresh : Sound o { fresh with serveOpen := true, registerOpen := true } := by
    constructor <;> simp [fresh, Ended, Timer.unset, Timer.Kept]
  exact hfresh.openSocket rfl rfl rfl rfl constructed

/-- The events of the run are orderly. -/
def Orderly (o : Options) (s : Provider) (es : List Event) : Prop :=
  Along (step o) (fun s e => s.orderly e = true) s es

variable {es : List Event}

lemma sound_run (h : s.Sound o) (horderly : Orderly o s es) (hrun : run (step o) s es = some s') :
    s'.Sound o :=
  along_induction (fun _ _ _ h horderly hstep => h.step horderly hstep) h horderly hrun

/-- **An orderly run of a provider leaves nothing behind.** -/
theorem lifecycle_of_orderly (o : Options) (constructed : Bool) {es : List Event} {s : Provider}
    (hrun : run (step o) (serve constructed) es = some s)
    (horderly : Orderly o (serve constructed) es) : Lifecycle o (serve constructed) es s where
  kept := (sound_run (sound_serve o constructed) horderly hrun).kept
  after before after s₁ hes hs₁ hended := by
    subst hes
    obtain ⟨s₁', hs₁', hrest⟩ := run_append.mp hrun
    obtain rfl := Option.some.inj (hs₁.symm.trans hs₁')
    obtain ⟨hbefore, hlater⟩ := along_append.mp horderly
    have hsound₁ := sound_run (sound_serve o constructed) hbefore hs₁
    -- From the end on, nothing that was created is added to.
    obtain ⟨-, -, hcreated⟩ := along_induction
      (I := fun s : Provider => s.Sound o ∧ s.Ended ∧ s.created = s₁.created)
      (fun s e s' hI he hstep => by
        have hresting := hI.1.resting hI.2.1 he hstep
        exact ⟨hI.1.step he hstep, hresting.ended hI.2.1, hresting.created.trans hI.2.2⟩)
      ⟨hsound₁, hended, rfl⟩ (hlater s₁ hs₁) hrest
    simpa [created] using hcreated

/-! ### A reply during the drain -/

/-- A reply that accepts the one capability of the examples. -/
def acceptance : RegisterReply := some [⟨some "review", true, some "review"⟩]

/-- The provider registers, handles an invocation, and is stopped. -/
def stoppedLater : List Event :=
  [.opening 0 ["review"] true, .message 0 (.reply acceptance), .job, .message 0 .invoke, .stop,
    .finished 0, .drained 0 false]

/-- The provider is stopped while it handles an invocation, and then registered. -/
def stoppedEarlier : List Event :=
  [.opening 0 ["review"] true, .message 0 .invoke, .stop, .message 0 (.reply acceptance), .job,
    .finished 0, .drained 0 false]

/-- A provider that is registered before it is stopped leaves nothing behind. -/
theorem lifecycle_of_orderly_stoppedLater : ∃ s,
    run (step none) (serve true) stoppedLater = some s ∧
      Lifecycle none (serve true) stoppedLater s := by
  have hrun : (run (step none) (serve true) stoppedLater).isSome = true := by decide +kernel
  obtain ⟨s, hs⟩ := Option.isSome_iff_exists.mp hrun
  have horderly : Along (step none) (fun s e => s.orderly e = true) (serve true)
      stoppedLater := by decide +kernel
  exact ⟨s, hs, lifecycle_of_orderly none true hs horderly⟩

/-- **The heartbeat goes on after `stop()` has resolved.** -/
theorem not_lifecycle_stoppedEarlier :
    ¬ ∀ (o : Options) (constructed : Bool) (es : List Event) (s : Provider),
      run (step o) (serve constructed) es = some s → Lifecycle o (serve constructed) es s := by
  intro h
  have hrun : (run (step none) (serve true) stoppedEarlier).isSome = true := by decide +kernel
  obtain ⟨s, hs⟩ := Option.isSome_iff_exists.mp hrun
  have hlast : (run (step none) (serve true) stoppedEarlier).map
      (fun s => (s.stopsDone, s.heartbeatTimer.running)) = some (1, [0]) := by decide +kernel
  rw [hs] at hlast
  obtain ⟨hdone, hrunning⟩ := Prod.mk.inj (Option.some.inj hlast)
  have hended : s.Ended := .inl (hdone ▸ Nat.one_pos)
  obtain ⟨-, -, -, hnone⟩ := (h none true stoppedEarlier s hs).kept.ended hended
  rw [hrunning] at hnone
  exact absurd hnone (List.cons_ne_nil 0 [])

end Provider

end Sdk.NodeProvider
