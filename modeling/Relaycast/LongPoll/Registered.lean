import Relaycast.LongPoll.Polling

/-!
# The requests that wait

What an event does where it can happen (`Happens`), and what every event keeps: the process holds
exactly the requests that wait, each once and under its key (`waiters_exact`).
-/

namespace LongPoll

open Delivery (DeliveryId DeliveryStatus)
open Script Relational Reactive

/-! ## The requests that wait -/

/-- The request waits under the key. -/
def System.ParkedAt (s : System) (key : String) (p : PollId) : Prop :=
  ∃ poll, s.polls[p]? = some poll ∧ poll.phase = .parked ∧ poll.key = key

/-- The process knows exactly the requests that wait, and none of them after the shutdown. -/
structure Registered (s : System) : Prop where
  waiting : ∀ key p, p ∈ s.waiters.waiting key ↔ s.ParkedAt key p
  tidy : s.waiters.Tidy
  closed : s.waiters.closed = true → ∀ poll ∈ s.polls, poll.phase ≠ .parked

/-- The requests that wait under one of the keys go on. -/
def Poll.wake (keys : List String) (phase : Phase) (poll : Poll) : Poll :=
  if poll.phase = .parked ∧ poll.key ∈ keys then { poll with phase } else poll

namespace System

variable {s s' : System} {p q : PollId} {poll : Poll} {phase : Phase} {key : String}

lemma getElem?_setPhase : (s.setPhase p phase).polls[q]? =
    if p = q then s.polls[q]?.map fun poll => { poll with phase } else s.polls[q]? := by
  rw [setPhase, List.getElem?_modify]
  split_ifs <;> simp

/-- A request that is there, and the others: what becomes of them when one goes on. -/
lemma parkedAt_setPhase (hpoll : s.polls[p]? = some poll) : (s.setPhase p phase).ParkedAt key q ↔
    (q = p ∧ phase = .parked ∧ poll.key = key) ∨ (q ≠ p ∧ s.ParkedAt key q) := by
  unfold ParkedAt
  rw [getElem?_setPhase]
  by_cases hq : p = q
  · subst hq
    rw [if_pos rfl, hpoll]
    simp [Poll.key]
  · rw [if_neg hq]
    simp [Ne.symm hq]

lemma parkedAt_self (hpoll : s.polls[p]? = some poll) :
    s.ParkedAt key p ↔ poll.phase = .parked ∧ poll.key = key := by
  simp [ParkedAt, hpoll]

lemma mem_setPhase {poll' : Poll} (hmem : poll' ∈ (s.setPhase p phase).polls) :
    poll'.phase = phase ∨ poll' ∈ s.polls := by
  obtain ⟨q, hq⟩ := List.getElem?_of_mem hmem
  rw [getElem?_setPhase] at hq
  split_ifs at hq
  · obtain ⟨poll, -, rfl⟩ := Option.map_eq_some_iff.mp hq
    exact .inl rfl
  · exact .inr (List.mem_of_getElem? hq)

end System

namespace Registered

variable {s s' : System} {p : PollId} {poll : Poll} {phase : Phase}

lemma start : Registered .start :=
  ⟨fun key p => by simp [System.ParkedAt, System.start, DeliveryWaiters.start,
      DeliveryWaiters.waiting, Dict.empty, Dict.get?],
    .start, fun h => absurd h (by simp [System.start, DeliveryWaiters.start])⟩

lemma of_eq (h : Registered s) (hpolls : s'.polls = s.polls) (hwaiters : s'.waiters = s.waiters) :
    Registered s' := by
  constructor
  · simpa only [System.ParkedAt, hpolls, hwaiters] using h.waiting
  · exact hwaiters ▸ h.tidy
  · rw [hpolls, hwaiters]
    exact h.closed

/-- A request that does not wait goes on without waiting. -/
lemma setPhase (h : Registered s) (hpoll : s.polls[p]? = some poll)
    (hparked : poll.phase ≠ .parked) (hphase : phase ≠ .parked) :
    Registered (s.setPhase p phase) := by
  refine ⟨fun key q => ?_, h.tidy, fun hclosed poll' hmem => ?_⟩
  · rw [System.parkedAt_setPhase hpoll]
    refine (h.waiting key q).trans ⟨fun hq => .inr ⟨?_, hq⟩, ?_⟩
    · rintro rfl
      exact hparked ((System.parkedAt_self hpoll).mp hq).1
    · rintro (⟨-, hphase', -⟩ | ⟨-, hq⟩)
      · exact absurd hphase' hphase
      · exact hq
  · obtain hphase' | hold := System.mem_setPhase hmem
    · exact hphase' ▸ hphase
    · exact h.closed hclosed poll' hold

/-- A request that does not wait is registered. -/
lemma park (h : Registered s) (hpoll : s.polls[p]? = some poll) (hparked : poll.phase ≠ .parked)
    (hopen : s.waiters.closed = false) :
    Registered ({ s with waiters := s.waiters.register poll.key p }.setPhase p .parked) := by
  have hfree : p ∉ s.waiters.waiting poll.key := fun hmem =>
    hparked ((System.parkedAt_self hpoll).mp ((h.waiting _ p).mp hmem)).1
  refine ⟨fun key q => ?_, h.tidy.register hfree, fun hclosed => ?_⟩
  · change q ∈ (s.waiters.register poll.key p).waiting key ↔ _
    rw [System.parkedAt_setPhase (s := { s with waiters := s.waiters.register poll.key p }) hpoll,
      DeliveryWaiters.waiting_register]
    have hsame : ({ s with waiters := s.waiters.register poll.key p } : System).ParkedAt key q ↔
        q ∈ s.waiters.waiting key := (h.waiting key q).symm
    have hnot : q = p → q ∉ s.waiters.waiting key := by
      rintro rfl hmem
      exact hparked ((System.parkedAt_self hpoll).mp ((h.waiting _ q).mp hmem)).1
    rw [hsame]
    split_ifs with hkey
    · rw [hkey, List.mem_append, List.mem_singleton]
      by_cases hq : q = p
      · simp [hq]
      · simp [hq]
    · by_cases hq : q = p
      · simp [hq, Ne.symm hkey, hq ▸ hnot hq]
      · simp [hq]
  · exact absurd (show s.waiters.closed = true from hclosed) (by simp [hopen])

/-- A request that waits is answered. -/
lemma finish (h : Registered s) (hpoll : s.polls[p]? = some poll) :
    Registered (s.finish p poll) := by
  refine ⟨fun key q => ?_, h.tidy.finish, fun hclosed poll' hmem => ?_⟩
  · change q ∈ (s.waiters.finish poll.key p).waiting key ↔ _
    rw [System.finish,
      System.parkedAt_setPhase (s := { s with waiters := s.waiters.finish poll.key p }) hpoll,
      DeliveryWaiters.waiting_finish]
    have hsame : ({ s with waiters := s.waiters.finish poll.key p } : System).ParkedAt key q ↔
        q ∈ s.waiters.waiting key := (h.waiting key q).symm
    rw [hsame]
    split_ifs with hkey
    · simp [hkey, and_comm]
    · by_cases hq : q = p
      · have hnot : p ∉ s.waiters.waiting key := fun hmem =>
          hkey ((System.parkedAt_self hpoll).mp ((h.waiting _ p).mp hmem)).2.symm
        simp [hq, hnot]
      · simp [hq]
  · obtain hphase' | hold := System.mem_setPhase hmem
    · simp [hphase']
    · exact h.closed hclosed poll' hold

/-- The requests are kept up to what says nothing of their waiting. -/
lemma map_polls (h : Registered s) (f : Poll → Poll)
    (hphase : ∀ poll, ((f poll).phase = .parked ↔ poll.phase = .parked) ∧ (f poll).key = poll.key)
    (hpolls : ∀ q : PollId, s'.polls[q]? = (s.polls[q]?).map f ∨ s'.polls[q]? = s.polls[q]?)
    (hwaiters : s'.waiters = s.waiters) : Registered s' := by
  have hparked : ∀ key q, s'.ParkedAt key q ↔ s.ParkedAt key q := by
    intro key q
    unfold System.ParkedAt
    obtain hq | hq := hpolls q
    · rw [hq]
      constructor
      · rintro ⟨poll', hpoll', hparked', hkey⟩
        obtain ⟨poll, hpoll, rfl⟩ := Option.map_eq_some_iff.mp hpoll'
        exact ⟨poll, hpoll, (hphase poll).1.mp hparked', (hphase poll).2 ▸ hkey⟩
      · rintro ⟨poll, hpoll, hparked', hkey⟩
        exact ⟨f poll, by simp [hpoll], (hphase poll).1.mpr hparked', (hphase poll).2.trans hkey⟩
    · rw [hq]
  refine ⟨fun key q => ?_, hwaiters ▸ h.tidy, fun hclosed poll' hmem hparked' => ?_⟩
  · rw [hwaiters, hparked]
    exact h.waiting key q
  · obtain ⟨q, hq⟩ := List.getElem?_of_mem hmem
    obtain ⟨poll, hpoll, hold, -⟩ := (hparked _ q).mp ⟨poll', hq, hparked', rfl⟩
    exact h.closed (hwaiters ▸ hclosed) poll (List.mem_of_getElem? hpoll) hold

/-- A new request does not wait yet. -/
lemma request (h : Registered s) (hpolls : s'.polls = s.polls ++ [poll])
    (hphase : poll.phase ≠ .parked) (hwaiters : s'.waiters = s.waiters) : Registered s' := by
  refine ⟨fun key q => ?_, hwaiters ▸ h.tidy, fun hclosed poll' hmem => ?_⟩
  · rw [hwaiters, h.waiting key q]
    unfold System.ParkedAt
    rw [hpolls]
    constructor
    · rintro ⟨poll', hpoll', hrest⟩
      have hq : q < s.polls.length := (List.getElem?_eq_some_iff.mp hpoll').1
      exact ⟨poll', List.getElem?_append_left hq ▸ hpoll', hrest⟩
    · rintro ⟨poll', hpoll', hrest⟩
      by_cases hq : q < s.polls.length
      · exact ⟨poll', List.getElem?_append_left hq ▸ hpoll', hrest⟩
      · rw [List.getElem?_append_right (Nat.le_of_not_lt hq), List.getElem?_singleton] at hpoll'
        split_ifs at hpoll'
        obtain rfl := Option.some.inj hpoll'
        exact absurd hrest.1 hphase
  · rw [hpolls, List.mem_append, List.mem_singleton] at hmem
    obtain hold | rfl := hmem
    · exact h.closed (hwaiters ▸ hclosed) poll' hold
    · exact hphase

/-- The requests that are known to wait are those that wait. -/
lemma resolve_eq {keys : List String} {ids : List PollId} (h : Registered s)
    (hids : ∀ p, p ∈ ids ↔ ∃ key ∈ keys, p ∈ s.waiters.waiting key) :
    s.resolve ids phase = s.polls.map (Poll.wake keys phase) := by
  refine List.ext_getElem? fun p => ?_
  rw [System.resolve, List.getElem?_mapIdx, List.getElem?_map]
  cases hpoll : s.polls[p]? with
  | none => rfl
  | some poll =>
    refine congrArg some (if_congr ((hids p).trans ?_) rfl rfl)
    constructor
    · rintro ⟨key, hkey, hmem⟩
      obtain ⟨hparked, rfl⟩ := (System.parkedAt_self hpoll).mp ((h.waiting key p).mp hmem)
      exact ⟨hparked, hkey⟩
    · rintro ⟨hparked, hkey⟩
      exact ⟨poll.key, hkey, (h.waiting _ p).mpr ⟨poll, hpoll, hparked, rfl⟩⟩

lemma polls_notify {task : ℕ} {call : RoutingCall} (h : Registered s) :
    (s.notify task call).polls = s.polls.map
      (.wake (DeliveryWaiters.notifyKeys call.workspaceId call.agentIds) .woken) :=
  h.resolve_eq fun _ => by simp

lemma wake_phase {keys : List String} (hphase : phase ≠ .parked) :
    (poll.wake keys phase).phase = .parked ↔ poll.phase = .parked ∧ poll.key ∉ keys := by
  unfold Poll.wake
  split_ifs with hwoken
  · exact ⟨fun h => absurd h hphase, fun h => absurd hwoken.2 h.2⟩
  · exact ⟨fun h => ⟨h, fun hkey => hwoken ⟨h, hkey⟩⟩, And.left⟩

@[simp] lemma wake_key {keys : List String} : (poll.wake keys phase).key = poll.key := by
  unfold Poll.wake
  split_ifs <;> rfl

/-- The requests under some keys are woken or answered, and are no longer known to wait. -/
lemma wake {keys : List String} (h : Registered s) (hphase : phase ≠ .parked)
    (hpolls : s'.polls = s.polls.map (Poll.wake keys phase))
    (hwaiting : ∀ key, s'.waiters.waiting key = if key ∈ keys then [] else s.waiters.waiting key)
    (htidy : s'.waiters.Tidy)
    (hclosed : s'.waiters.closed = true → s.waiters.closed = true ∨
      ∀ poll ∈ s.polls, poll.phase = .parked → poll.key ∈ keys) : Registered s' := by
  refine ⟨fun key q => ?_, htidy, fun hclosed' poll' hmem hparked => ?_⟩
  · have hiff : s'.ParkedAt key q ↔ s.ParkedAt key q ∧ key ∉ keys := by
      unfold System.ParkedAt
      rw [hpolls, List.getElem?_map]
      constructor
      · rintro ⟨poll', hpoll', hparked, rfl⟩
        obtain ⟨poll, hpoll, rfl⟩ := Option.map_eq_some_iff.mp hpoll'
        obtain ⟨hold, hkey⟩ := (wake_phase hphase).mp hparked
        exact ⟨⟨poll, hpoll, hold, wake_key.symm⟩, by rwa [wake_key]⟩
      · rintro ⟨⟨poll, hpoll, hparked, rfl⟩, hkey⟩
        exact ⟨_, by simp [hpoll], (wake_phase hphase).mpr ⟨hparked, hkey⟩, wake_key⟩
    rw [hiff, hwaiting, ← h.waiting]
    split_ifs with hkey <;> simp [hkey]
  · rw [hpolls] at hmem
    obtain ⟨poll, hpoll, rfl⟩ := List.mem_map.mp hmem
    obtain ⟨hold, hkey⟩ := (wake_phase hphase).mp hparked
    obtain hclosed' | hall := hclosed hclosed'
    · exact h.closed hclosed' poll hpoll hold
    · exact hkey (hall poll hpoll hold)

lemma close (h : Registered s) : Registered s.close := by
  have hmem : ∀ p, p ∈ s.waiters.waiters.entries.flatMap Prod.snd ↔
      ∃ key ∈ s.waiters.waiters.entries.map Prod.fst, p ∈ s.waiters.waiting key := by
    intro p
    simp only [List.mem_flatMap, List.mem_map, DeliveryWaiters.mem_waiting]
    constructor
    · rintro ⟨⟨key, set⟩, hset, hp⟩
      exact ⟨key, ⟨_, hset, rfl⟩, set, hset, hp⟩
    · rintro ⟨key, -, set, hset, hp⟩
      exact ⟨(key, set), hset, hp⟩
  have hkeys : ∀ key p, p ∈ s.waiters.waiting key →
      key ∈ s.waiters.waiters.entries.map Prod.fst := by
    intro key p hp
    obtain ⟨set, hset, -⟩ := DeliveryWaiters.mem_waiting.mp hp
    exact List.mem_map.mpr ⟨_, hset, rfl⟩
  refine h.wake (by simp) (h.resolve_eq hmem) (fun key => ?_) h.tidy.close
    fun _ => .inr fun poll hpoll hparked => ?_
  · change s.waiters.close.waiting key = _
    rw [DeliveryWaiters.waiting_close]
    split_ifs with hkey
    · rfl
    · exact (List.eq_nil_iff_forall_not_mem.mpr fun p hp => hkey (hkeys key p hp)).symm
  · obtain ⟨p, hp⟩ := List.getElem?_of_mem hpoll
    exact hkeys poll.key p ((h.waiting _ p).mpr ⟨poll, hp, hparked, rfl⟩)

lemma abort (h : Registered s) (hpoll : s.polls[p]? = some poll) : Registered (s.abort p poll) := by
  have hflag : Registered
      { s with polls := s.polls.modify p fun poll => { poll with aborted := true } } := by
    refine h.map_polls (fun poll => { poll with aborted := true }) (fun _ => ⟨Iff.rfl, rfl⟩) ?_ rfl
    intro q
    change (s.polls.modify p _)[q]? = _ ∨ (s.polls.modify p _)[q]? = _
    rw [List.getElem?_modify]
    split_ifs
    · exact .inl rfl
    · exact .inr (by simp)
  unfold System.abort
  dsimp only
  split_ifs with hparked
  · have hpoll' : ({ s with polls := s.polls.modify p fun poll => { poll with aborted := true } } :
        System).polls[p]? = some { poll with aborted := true } := by
      simp [hpoll]
    exact @finish _ p { poll with aborted := true } hflag hpoll'
  · exact hflag

lemma resume {since : Millis} {result : List DeliveryId} (h : Registered s)
    (hpoll : s.polls[p]? = some poll) (hphase : poll.phase = .listed since result) :
    Registered (s.resume p poll since result) := by
  have hparked : poll.phase ≠ .parked := by simp [hphase]
  unfold System.resume
  dsimp only
  split_ifs
  · exact h.setPhase hpoll hparked (by simp)
  · split
    · exact h.setPhase hpoll hparked (by simp)
    · exact h.setPhase hpoll hparked (by simp)
    · next w hwait =>
      obtain ⟨hopen, -, -, rfl⟩ := DeliveryWaiters.wait_inr hwait
      exact h.park hpoll hparked hopen

end Registered

/-! ## Events -/

/-- What an event does where it can happen. -/
inductive Happens (s : System) : Event → System → Prop
  | tick (now) : Happens s (.tick now) { s with clock := now }
  | create (workspaceId created) : Happens s (.create workspaceId created)
      (s.create workspaceId created)
  | notify (task call) (hcall : s.tasks[task]? = some call) (hpending : call.notified = none) :
      Happens s (.notify task) (s.notify task call)
  | write (id status) : Happens s (.write id status) (s.write id status)
  | remove (id) : Happens s (.remove id)
      { s with deliveries := s.deliveries.filter (·.id != id) }
  | request (workspaceId agentId query wait) (hvalid : query.valid wait = true) :
      Happens s (.request workspaceId agentId query wait)
        { s with polls := s.polls ++
          [⟨workspaceId, agentId, query, s.clock + wait.getD 0, false, .woken⟩] }
  | read (p poll) (hpoll : s.polls[p]? = some poll) (hphase : poll.phase = .woken) :
      Happens s (.read p) (s.setPhase p (.reading s.clock))
  | list (p poll since) (hpoll : s.polls[p]? = some poll) (hphase : poll.phase = .reading since) :
      Happens s (.list p) (s.setPhase p (.listed since
        (listDeliveries s.deliveries since poll.workspaceId poll.agentId poll.query)))
  | resume (p poll since result) (hpoll : s.polls[p]? = some poll)
      (hphase : poll.phase = .listed since result) :
      Happens s (.resume p) (s.resume p poll since result)
  | fire (p poll) (hpoll : s.polls[p]? = some poll) (hphase : poll.phase = .parked)
      (hdue : poll.deadline ≤ s.clock) : Happens s (.fire p) (s.finish p poll)
  | abort (p poll) (hpoll : s.polls[p]? = some poll) : Happens s (.abort p) (s.abort p poll)
  | close : Happens s .close s.close

variable {s s' : System} {e : Event}

lemma happens_of_step (hstep : s.step e = some s') : Happens s e s' := by
  cases e with
  | tick now =>
    obtain rfl := Option.some.inj hstep
    exact .tick now
  | create workspaceId created =>
    simp only [System.step] at hstep
    split_ifs at hstep
    obtain rfl := Option.some.inj hstep
    exact .create workspaceId created
  | notify task =>
    simp only [System.step] at hstep
    split at hstep
    · next call hcall =>
      split_ifs at hstep with hpending
      obtain rfl := Option.some.inj hstep
      exact .notify task call hcall hpending
    · cases hstep
  | write id status =>
    obtain rfl := Option.some.inj hstep
    exact .write id status
  | remove id =>
    obtain rfl := Option.some.inj hstep
    exact .remove id
  | request workspaceId agentId query wait =>
    simp only [System.step] at hstep
    split_ifs at hstep with hvalid
    obtain rfl := Option.some.inj hstep
    exact .request workspaceId agentId query wait hvalid
  | read p =>
    simp only [System.step] at hstep
    split at hstep
    · next poll hpoll =>
      split_ifs at hstep with hphase
      obtain rfl := Option.some.inj hstep
      exact .read p poll hpoll hphase
    · cases hstep
  | list p =>
    simp only [System.step] at hstep
    split at hstep
    · next poll hpoll =>
      split at hstep
      · next since hphase =>
        obtain rfl := Option.some.inj hstep
        exact .list p poll since hpoll hphase
      · cases hstep
    · cases hstep
  | resume p =>
    simp only [System.step] at hstep
    split at hstep
    · next poll hpoll =>
      split at hstep
      · next since result hphase =>
        obtain rfl := Option.some.inj hstep
        exact .resume p poll since result hpoll hphase
      · cases hstep
    · cases hstep
  | fire p =>
    simp only [System.step] at hstep
    split at hstep
    · next poll hpoll =>
      split_ifs at hstep with hphase
      obtain rfl := Option.some.inj hstep
      exact .fire p poll hpoll hphase.1 hphase.2
    · cases hstep
  | abort p =>
    simp only [System.step] at hstep
    split at hstep
    · next poll hpoll =>
      obtain rfl := Option.some.inj hstep
      exact .abort p poll hpoll
    · cases hstep
  | close =>
    obtain rfl := Option.some.inj hstep
    exact .close

/-- **Every event keeps what is known of the requests that wait.** -/
lemma Registered.step (h : Registered s) (hstep : s.step e = some s') : Registered s' := by
  cases happens_of_step hstep with
  | tick now => exact h.of_eq rfl rfl
  | create workspaceId created => exact h.of_eq rfl rfl
  | write id status => exact h.of_eq rfl rfl
  | remove id => exact h.of_eq rfl rfl
  | notify task call hcall hpending =>
    exact h.wake (by simp) h.polls_notify (fun _ => DeliveryWaiters.waiting_notify) h.tidy.notify
      fun hclosed => .inl (DeliveryWaiters.notify_closed ▸ hclosed)
  | request workspaceId agentId query wait hvalid => exact h.request rfl (by simp) rfl
  | read p poll hpoll hphase => exact h.setPhase hpoll (by simp [hphase]) (by simp)
  | list p poll since hpoll hphase => exact h.setPhase hpoll (by simp [hphase]) (by simp)
  | resume p poll since result hpoll hphase => exact h.resume hpoll hphase
  | fire p poll hpoll hphase hdue => exact h.finish hpoll
  | abort p poll hpoll => exact h.abort hpoll
  | close => exact h.close

lemma registered_of_run {es : List Event} (hrun : run System.step .start es = some s) :
    Registered s :=
  run_induction (fun _ _ _ h hstep => h.step hstep) .start hrun

/-- **The process holds the requests that wait, and nothing else.** Each of them is held once and
under its key, a key under which none waits is not held, and after a shutdown none waits. -/
theorem waiters_exact {es : List Event} (hrun : run System.step .start es = some s) :
    (∀ key p, p ∈ s.waiters.waiting key ↔
      ∃ poll, s.polls[p]? = some poll ∧ poll.phase = .parked ∧ poll.key = key) ∧
    (∀ key set, (key, set) ∈ s.waiters.waiters.entries → set ≠ [] ∧ set.Nodup) ∧
    (s.waiters.closed = true → ∀ poll ∈ s.polls, poll.phase ≠ .parked) := by
  have h := registered_of_run hrun
  exact ⟨h.waiting, fun key set hset => ⟨h.tidy.nonempty _ hset, h.tidy.nodup _ hset⟩, h.closed⟩

/-- Two requests for one agent wait, and the client of one is gone. -/
theorem waiters_exact_aborted : ∃ s, run System.step .start
    [.tick 1000, .request "ws" "alice" ⟨none, none⟩ (some 25000), .read 0, .list 0, .resume 0,
      .request "ws" "alice" ⟨none, none⟩ (some 25000), .read 1, .list 1, .resume 1,
      .abort 0] = some s ∧ 1 ∈ (System.waiters s).waiting (waiterKey "ws" "alice") := by
  have hany : (run System.step .start
      [.tick 1000, .request "ws" "alice" ⟨none, none⟩ (some 25000), .read 0, .list 0, .resume 0,
        .request "ws" "alice" ⟨none, none⟩ (some 25000), .read 1, .list 1, .resume 1,
        .abort 0]).any (fun s => s.polls[1]?.any fun poll =>
          poll.phase == .parked && poll.key == waiterKey "ws" "alice") = true := by decide +kernel
  obtain ⟨s, hrun, hs⟩ := Option.any_eq_true _ _ |>.mp hany
  obtain ⟨poll, hpoll, hp⟩ := Option.any_eq_true _ _ |>.mp hs
  rw [Bool.and_eq_true, beq_iff_eq, beq_iff_eq] at hp
  exact ⟨s, hrun, ((waiters_exact hrun).1 _ 1).mpr ⟨poll, hpoll, hp⟩⟩

end LongPoll
