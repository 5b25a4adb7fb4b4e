import Relaycast.Sdk.NodeProvider

/-!
# The socket of a node provider

Whatever happens, a provider has at most one socket that is in use, and it is the current one:
before the current socket is replaced it has closed or was closed.  The reason is that only the
reconnect timer opens a socket, and that the timer runs only while there is none (`owning_run`).

This is what is left of the order that the lifecycle asks for when `stop()` may come at any time.
-/

namespace Sdk.NodeProvider

open Reactive

namespace Provider

variable {o : Options} {s s' : Provider} {i : SocketId}

/-- The current socket is the only one in use, and there is none while another is awaited. -/
structure Owning (s : Provider) : Prop where
  owner : ∀ i k, s.sockets[i]? = some k → k.live = true → s.ws = some i
  attached : ∀ i k, s.ws = some i → s.sockets[i]? = some k → k.attached = true
  kept : s.reconnectTimer.Kept
  waiting : s.reconnectTimer.handle ≠ none → s.ws = none
  scheduled : ∀ f ∈ s.frames, f = .scheduleReconnect ∨ f = .giveUp → s.ws = none
  /-- A provider that stops by itself has no socket. -/
  stopping : s.stopped = true → 0 < s.stopCalls ∨ s.ws = none

/-! ## Promises and timers -/

lemma Owning.settleServe (h : s.Owning) (outcome : Outcome) : (s.settleServe outcome).Owning := by
  unfold Provider.settleServe
  split_ifs
  · exact { h with }
  · exact h

lemma Owning.settleRegister (h : s.Owning) (outcome : Outcome) :
    (s.settleRegister outcome).Owning := by
  unfold Provider.settleRegister
  split_ifs
  · exact { h with }
  · exact h

lemma Owning.rejectPending (h : s.Owning) (e : Failure) : (s.rejectPending e).Owning := by
  unfold Provider.rejectPending
  split
  · exact h
  · exact { h with }

lemma Owning.closeSocket (h : s.Owning) : s.closeSocket.Owning ∧ s.closeSocket.ws = none := by
  unfold Provider.closeSocket
  split
  · next hws => exact ⟨h, hws⟩
  · next i hws =>
    refine ⟨{ h with
      owner := fun j k hj hlive => ?_
      attached := fun _ _ hj => absurd hj.symm (Option.some_ne_none _)
      waiting := fun _ => rfl
      scheduled := fun _ _ _ => rfl
      stopping := fun _ => .inr rfl }, rfl⟩
    obtain ⟨k₀, hj₀, rfl⟩ := getElem?_modified.mp hj
    split_ifs at hlive with hij
    · exact absurd hlive (by simp)
    · exact absurd (Option.some.inj (hws.symm.trans (h.owner j k₀ hj₀ hlive))) hij

/-! ## Opening a socket -/

/-- Without a socket, another may be scheduled. -/
lemma Owning.scheduleReconnect (h : s.Owning) (hws : s.ws = none) :
    (s.scheduleReconnect o).Owning := by
  unfold Provider.scheduleReconnect
  split_ifs with hset hexhausted
  · exact h
  · exact { h with scheduled := fun _ _ _ => hws }
  · have htimer : s.reconnectTimer.handle = none := by
      have hboth : s.stopped = false ∧ s.reconnectTimer.handle = none := by simpa using hset
      exact hboth.2
    exact { h with kept := h.kept.set htimer, waiting := fun _ => hws }

lemma Owning.openSocket (h : s.Owning) (hws : s.ws = none)
    (htimer : s.reconnectTimer.handle = none) (hframes : s.frames = []) (constructed : Bool) :
    (s.openSocket constructed).Owning := by
  unfold Provider.openSocket
  split_ifs with hstopped
  · exact h
  · refine { h with
      owner := fun j k hj hlive => ?_
      attached := fun j k hws' hj => ?_
      waiting := fun hhandle => absurd htimer hhandle
      scheduled := fun f hmem => by simp [hframes] at hmem
      stopping := fun hstopped' => absurd hstopped' hstopped }
    · rcases getElem?_created.mp hj with hj | ⟨rfl, -⟩
      · exact absurd ((h.owner j k hj hlive).symm.trans hws) (Option.some_ne_none j)
      · rfl
    · rcases getElem?_created.mp hj with hj | ⟨-, rfl⟩
      · obtain rfl := Option.some.inj hws'
        simp at hj
      · rfl
  · exact { h with scheduled := fun _ _ _ => hws }

lemma Owning.reconnectTimeout (h : s.Owning) {n : ℕ} (hn : n ∈ s.reconnectTimer.running)
    (hframes : s.frames = []) (constructed : Bool) : (s.reconnectTimeout n constructed).Owning := by
  obtain ⟨hkept, hhandle⟩ := h.kept.fire hn
  have hws : s.ws = none := h.waiting (by simp [hhandle])
  have hfired : Owning { s with reconnectTimer := s.reconnectTimer.fire n } :=
    { h with kept := hkept, waiting := fun _ => hws }
  exact hfired.openSocket hws rfl hframes constructed

/-! ## Stopping and failing -/

lemma Owning.finishStop (h : s.Owning) : s.finishStop.Owning := by
  have hclosed := ((h.settleRegister (.rejected (.other "node provider stopped"))).rejectPending
    (.other "node provider stopped")).closeSocket.1
  refine Owning.settleServe ?_ _
  exact { hclosed with }

lemma Owning.stop (h : s.Owning) : s.stop.Owning := by
  have hstopping : Owning
      { s with stopped := true, stopCalls := s.stopCalls + 1 }.clearReconnect.stopHeartbeat :=
    { h with
      kept := h.kept.clear.1
      waiting := fun hhandle => absurd h.kept.clear.2 hhandle
      stopping := fun _ => .inl (Nat.succ_pos _) }
  unfold Provider.stop
  dsimp only
  split_ifs
  · exact hstopping.finishStop
  · exact { hstopping with }

lemma Owning.giveUp (h : s.Owning) (hws : s.ws = none) : s.giveUp.Owning := by
  refine Owning.settleServe (Owning.settleRegister ?_ _) _
  exact { h with stopping := fun _ => .inr hws }

lemma Owning.onRegisterFailed (h : s.Owning) (e : Failure) : (s.onRegisterFailed e).Owning := by
  cases e with
  | registration message code =>
    have hnoted : Owning { s with registrationRejected := true } := { h with }
    have hsettled := hnoted.settleRegister (.rejected (.registration message code))
    exact { hsettled with
      scheduled := fun f hmem hf => hsettled.scheduled f
        ((List.mem_cons.mp hmem).resolve_left (by rintro rfl; simp at hf)) hf }
  | other message =>
    exact { h with
      scheduled := fun f hmem hf => h.scheduled f
        ((List.mem_cons.mp hmem).resolve_left (by rintro rfl; simp at hf)) hf }

lemma Owning.accept (h : s.Owning) : (s.accept i).Owning := by
  refine Owning.settleRegister ?_ _
  exact { h with }

lemma Owning.runJob (h : s.Owning) (j : Job) : (s.runJob j).Owning := by
  cases j with
  | failed e => exact h.onRegisterFailed e
  | registered i names reply =>
    change (s.onRegistered i names reply).Owning
    unfold onRegistered
    split
    · exact h.accept
    · exact h.onRegisterFailed _
    · exact { h with }

lemma Owning.refuse (h : s.Owning) (message code : String) : (s.refuse message code).Owning := by
  obtain ⟨hclosed, hws⟩ := h.closeSocket
  unfold Provider.refuse
  dsimp only
  split_ifs
  · exact hclosed
  · refine Owning.settleServe ?_ _
    exact { hclosed with stopping := fun _ => .inr hws }

lemma Owning.resume (h : s.Owning) {f : Frame} {fs : List Frame} (hframes : s.frames = f :: fs) :
    ({ s with frames := fs }.resume o f).Owning := by
  have hmem : f ∈ s.frames := by
    rw [hframes]
    exact List.mem_cons_self
  have hpopped : Owning { s with frames := fs } := { h with
    scheduled := fun f' hf' => h.scheduled f' (by rw [hframes]; exact List.mem_cons_of_mem f hf') }
  cases f with
  | scheduleReconnect => exact hpopped.scheduleReconnect (h.scheduled _ hmem (.inl rfl))
  | giveUp => exact hpopped.giveUp (h.scheduled _ hmem (.inr rfl))
  | reconnect =>
    change Owning (dropAndReconnect o _)
    unfold dropAndReconnect
    split_ifs
    · exact hpopped
    · exact hpopped.closeSocket.1.scheduleReconnect hpopped.closeSocket.2
  | refuse message code => exact hpopped.refuse message code

/-! ## Callbacks -/

lemma Owning.onmessage (h : s.Owning) (m : Message) : (s.onmessage m).Owning := by
  unfold Provider.onmessage
  split
  · split
    · exact h
    · exact { h with }
  · split
    · exact h
    · exact { h with }
  · split_ifs
    · exact h
    · exact { h with }
  · exact h

/-- The current socket is lost. -/
lemma Owning.onclose (hkept : s.reconnectTimer.Kept)
    (hdead : ∀ (i : SocketId) (k : Socket), s.sockets[i]? = some k → k.live = false) : (s.onclose o).Owning := by
  have hgone : Owning { s with ws := none, registered := false }.stopHeartbeat := by
    refine ⟨fun i k hi hlive => ?_, fun _ _ hi => absurd hi.symm (Option.some_ne_none _), hkept, fun _ => rfl, fun _ _ _ => rfl, fun _ => .inr rfl⟩
    exact absurd ((hdead i k hi).symm.trans hlive) Bool.false_ne_true
  have hlost := hgone.rejectPending (.other "node provider connection closed")
  have hws : ({ s with ws := none, registered := false }.stopHeartbeat.rejectPending
      (.other "node provider connection closed")).ws = none := by
    unfold Provider.rejectPending
    split <;> rfl
  unfold Provider.onclose
  dsimp only
  split_ifs
  · exact hlost.settleServe _
  · exact hlost
  · exact hlost.scheduleReconnect hws

/-! ## Events -/

/-- A socket moves on. -/
lemma Owning.update (h : s.Owning) {k k' : Socket} {e : SocketEvent} (hi : s.sockets[i]? = some k)
    (hk : k.after e = some k') : Owning { s with sockets := s.sockets.set i k' } := by
  refine { h with
    owner := fun j l hj hlive => ?_
    attached := fun j l hws hj => ?_ }
  · rw [getElem?_updated hi] at hj
    split_ifs at hj with hij
    · obtain rfl := Option.some.inj hj
      obtain rfl := hij
      exact h.owner i k hi (Socket.live_of_after hk hlive)
    · exact h.owner j l hj hlive
  · rw [getElem?_updated hi] at hj
    split_ifs at hj with hij
    · obtain rfl := Option.some.inj hj
      obtain rfl := hij
      exact (Socket.after_frame hk).1.trans (h.attached i k hws hi)
    · exact h.attached j l hws hj

/-- Nothing is in use once the current socket has closed. -/
lemma Owning.dead_of_close (h : s.Owning) {k k' : Socket} (hws : s.ws = some i)
    (hi : s.sockets[i]? = some k) (hk : k.after .close = some k') :
    ∀ (j : SocketId) (l : Socket), (s.sockets.set i k')[j]? = some l → l.live = false := by
  intro j l hj
  rw [getElem?_updated hi] at hj
  split_ifs at hj with hij
  · obtain rfl := Option.some.inj hj
    simp only [Socket.after, Option.ite_none_left_eq_some, Option.some.injEq] at hk
    rw [← hk.2]
    simp [Socket.live]
  · by_contra hlive
    have howner := h.owner j l hj (by simpa using hlive)
    exact hij (Option.some.inj (hws.symm.trans howner))

lemma Owning.deliver (h : s.Owning) {e : SocketEvent} {handler : Provider → Provider}
    (hhandler : ∀ k k', s.ws = some i → s.sockets[i]? = some k → k.after e = some k' →
      (handler { s with sockets := s.sockets.set i k' }).Owning)
    (hstep : s.deliver i e handler = some s') : s'.Owning := by
  unfold Provider.deliver at hstep
  split at hstep
  · exact absurd hstep.symm (Option.some_ne_none _)
  · next k hi =>
    obtain ⟨k', hk, rfl⟩ := Option.map_eq_some_iff.mp hstep
    dsimp only
    split_ifs with hreaches
    · exact hhandler k k' (by simpa using (Bool.and_eq_true_iff.mp hreaches).2) hi hk
    · exact h.update hi hk

lemma Owning.react (h : s.Owning) (hframes : s.frames = []) {e : Event}
    (hstep : s.react o e = some s') : s'.Owning := by
  cases e with
  | stop | resume | job | drained | finished => exact absurd hstep.symm (Option.some_ne_none _)
  | opening i names sent =>
    unfold Provider.react at hstep
    refine h.deliver (fun k k' _ hi hk => ?_) hstep
    have hupdated := h.update hi hk
    unfold sendRegister
    dsimp only
    split_ifs
    · exact { hupdated with }
    · exact { hupdated with }
  | message i m =>
    unfold Provider.react at hstep
    exact h.deliver (fun k k' _ hi hk => (h.update hi hk).onmessage m) hstep
  | error i =>
    unfold Provider.react at hstep
    exact h.deliver (fun k k' _ hi hk => h.update hi hk) hstep
  | close i =>
    unfold Provider.react at hstep
    exact h.deliver (fun k k' hws hi hk => Owning.onclose h.kept (h.dead_of_close hws hi hk)) hstep
  | reconnectTimeout n constructed =>
    simp only [Provider.react, Option.ite_none_right_eq_some, Option.some.injEq] at hstep
    obtain ⟨hn, rfl⟩ := hstep
    exact h.reconnectTimeout hn hframes constructed
  | heartbeat n =>
    simp only [Provider.react, Option.ite_none_right_eq_some, Option.some.injEq] at hstep
    obtain ⟨-, rfl⟩ := hstep
    exact h

/-- **Every event keeps the current socket the only one.** -/
lemma Owning.step (h : s.Owning) {e : Event} (hstep : s.step o e = some s') : s'.Owning := by
  cases e with
  | stop =>
    obtain rfl := Option.some.inj hstep
    exact h.stop
  | resume =>
    cases hframes : s.frames with
    | nil => simp [Provider.step, hframes] at hstep
    | cons f fs =>
      simp only [Provider.step, hframes, Option.some.injEq] at hstep
      exact hstep ▸ h.resume hframes
  | job =>
    simp only [Provider.step] at hstep
    split at hstep
    · next j js hframes hjobs =>
      have hpopped : Owning { s with jobs := js } := { h with }
      exact Option.some.inj hstep ▸ hpopped.runJob j
    · exact absurd hstep.symm (Option.some_ne_none _)
  | drained n timedOut =>
    simp only [Provider.step] at hstep
    split at hstep
    · simp only [Option.ite_none_right_eq_some, Option.some.injEq] at hstep
      have hdrained : Owning { s with draining := s.draining.eraseIdx n } := { h with }
      exact hstep.2 ▸ hdrained.finishStop
    · exact absurd hstep.symm (Option.some_ne_none _)
  | finished t =>
    simp only [Provider.step, Option.ite_none_right_eq_some, Option.some.injEq] at hstep
    exact hstep.2 ▸ { h with }
  | opening | message | error | close | reconnectTimeout | heartbeat =>
    simp only [Provider.step, Option.ite_none_right_eq_some] at hstep
    obtain ⟨⟨hframes, -⟩, hreact⟩ := hstep
    exact h.react hframes hreact

lemma owning_serve (constructed : Bool) : (serve constructed).Owning := by
  have hfresh : Owning { fresh with serveOpen := true, registerOpen := true } :=
    ⟨fun i k hi => by simp [fresh] at hi, fun i k hi => by simp [fresh] at hi, Timer.kept_unset, fun _ => rfl, fun _ _ _ => rfl,
      fun _ => .inr rfl⟩
  exact hfresh.openSocket rfl rfl rfl constructed

/-- **In every run, the socket that is in use is the current one.** -/
theorem owning_run {constructed : Bool} {es : List Event}
    (hrun : run (step o) (serve constructed) es = some s) : s.Owning :=
  run_induction (I := Owning) (fun _ _ _ h hstep => h.step hstep) (owning_serve constructed) hrun

end Provider

end Sdk.NodeProvider
