import Mathlib.Order.Bounds.Basic
import Relaycast.LongPoll.Wakeups

/-!
# What is remembered, and what is answered

The times that the process remembers are the latest at which an agent was notified, of those that
are at most a minute older than every notification (`lastNotified_exact`).  A request is answered
with nothing only when it is late, its client is gone or the process is shut down
(`answered_empty`).
-/

namespace LongPoll

open Delivery (DeliveryId DeliveryStatus)
open Script Relational Reactive

variable {s s' : System} {e : Event} {es : List Event} {key : String} {at' now : Millis}

/-! ## What is remembered -/

/-- The keys that a routing call notifies. -/
def RoutingCall.keys (call : RoutingCall) : List String :=
  DeliveryWaiters.notifyKeys call.workspaceId call.agentIds

/-- The times at which a key was notified. -/
def System.notifiedAt (s : System) (key : String) : Set Millis :=
  {at' | ∃ call ∈ s.tasks, call.notified = some at' ∧ key ∈ call.keys}

/-- The times at which anything was notified. -/
def System.notifications (s : System) : Set Millis :=
  {at' | ∃ call ∈ s.tasks, call.notified = some at'}

/-- What is remembered of a key is the latest time at which it was notified, unless that is too
old. -/
structure Remembered (s : System) : Prop where
  ordered : s.waiters.Ordered s.clock
  past : ∀ now ∈ s.notifications, now ≤ s.clock
  exact : ∀ key at', s.waiters.lastNotified.get? key = some at' ↔
    IsGreatest (s.notifiedAt key) at' ∧
      ∀ now ∈ s.notifications, now - at' ≤ DELIVERY_NOTIFY_MEMORY_MS

namespace Remembered

lemma start : Remembered .start := by
  refine ⟨.start, fun now hnow => ?_, fun key at' => ?_⟩
  · obtain ⟨call, hcall, -⟩ := hnow
    exact absurd hcall List.not_mem_nil
  · constructor
    · intro hget
      exact absurd (Dict.get?_eq_some.mp hget) List.not_mem_nil
    · rintro ⟨⟨⟨call, hcall, -⟩, -⟩, -⟩
      exact absurd hcall List.not_mem_nil

/-- Nothing is notified, and nothing is forgotten. -/
lemma of_eq (h : Remembered s) (hclock : s.clock ≤ s'.clock)
    (hlast : s'.waiters.lastNotified = s.waiters.lastNotified)
    (htasks : ∀ call : RoutingCall, call.notified ≠ none → (call ∈ s'.tasks ↔ call ∈ s.tasks)) :
    Remembered s' := by
  have hmem : ∀ (call : RoutingCall) (now : Millis), call.notified = some now →
      (call ∈ s'.tasks ↔ call ∈ s.tasks) := fun call now hnow => htasks call (by simp [hnow])
  have hnotifications : s'.notifications = s.notifications := by
    ext now
    exact exists_congr fun call => ⟨fun h => ⟨(hmem call now h.2).mp h.1, h.2⟩,
      fun h => ⟨(hmem call now h.2).mpr h.1, h.2⟩⟩
  have hnotifiedAt : ∀ key, s'.notifiedAt key = s.notifiedAt key := by
    intro key
    ext now
    exact exists_congr fun call => ⟨fun h => ⟨(hmem call now h.2.1).mp h.1, h.2⟩,
      fun h => ⟨(hmem call now h.2.1).mpr h.1, h.2⟩⟩
  refine ⟨(h.ordered.mono hclock).of_eq hlast, fun now hnow => ?_, fun key at' => ?_⟩
  · exact (h.past now (hnotifications ▸ hnow)).trans hclock
  · rw [hlast, hnotifiedAt, hnotifications]
    exact h.exact key at'

/-- The routing calls that have notified, after one more has. -/
lemma exists_notify {task : ℕ} {call : RoutingCall} {P : String → List String → Prop}
    (hcall : s.tasks[task]? = some call) (hpending : call.notified = none) :
    (∃ c ∈ (s.notify task call).tasks, c.notified = some at' ∧ P c.workspaceId c.agentIds) ↔
      (at' = s.clock ∧ P call.workspaceId call.agentIds) ∨
        ∃ c ∈ s.tasks, c.notified = some at' ∧ P c.workspaceId c.agentIds := by
  have hlt : task < s.tasks.length := (List.getElem?_eq_some_iff.mp hcall).1
  constructor
  · rintro ⟨c, hc, hnotified, hP⟩
    obtain ⟨q, hq⟩ := List.getElem?_of_mem hc
    by_cases htask : task = q
    · rw [System.notify, ← htask, List.getElem?_set_self hlt] at hq
      obtain rfl := Option.some.inj hq
      exact .inl ⟨(Option.some.inj hnotified).symm, hP⟩
    · rw [System.notify, List.getElem?_set_ne htask] at hq
      exact .inr ⟨c, List.mem_of_getElem? hq, hnotified, hP⟩
  · rintro (⟨rfl, hP⟩ | ⟨c, hc, hnotified, hP⟩)
    · exact ⟨{ call with notified := some s.clock }, List.mem_set hlt _, rfl, hP⟩
    · obtain ⟨q, hq⟩ := List.getElem?_of_mem hc
      have htask : task ≠ q := by
        rintro rfl
        obtain rfl := Option.some.inj (hcall.symm.trans hq)
        simp [hpending] at hnotified
      exact ⟨c, List.mem_of_getElem? ((List.getElem?_set_ne htask).trans hq), hnotified, hP⟩

lemma notify {task : ℕ} {call : RoutingCall} (h : Remembered s)
    (hcall : s.tasks[task]? = some call) (hpending : call.notified = none) :
    Remembered (s.notify task call) := by
  have hnotifications : ∀ now, now ∈ (s.notify task call).notifications ↔
      now = s.clock ∨ now ∈ s.notifications := fun now => by
    simpa [System.notifications] using exists_notify (P := fun _ _ => True) hcall hpending
  have hnotifiedAt : ∀ key at', at' ∈ (s.notify task call).notifiedAt key ↔
      (at' = s.clock ∧ key ∈ call.keys) ∨ at' ∈ s.notifiedAt key := fun key at' =>
    exists_notify (P := fun w ids => key ∈ DeliveryWaiters.notifyKeys w ids) hcall hpending
  have hpast : ∀ key, ∀ now ∈ s.notifiedAt key, now ≤ s.clock := by
    rintro key now ⟨c, hc, hnotified, -⟩
    exact h.past now ⟨c, hc, hnotified⟩
  refine ⟨h.ordered.notify, fun now hnow => ?_, fun key at' => ?_⟩
  · obtain rfl | hold := (hnotifications now).mp hnow
    · exact le_rfl
    · exact h.past now hold
  · change (s.waiters.notify s.clock call.workspaceId call.agentIds).lastNotified.get? key = _ ↔ _
    rw [h.ordered.get?_notify]
    split_ifs with hkey
    · constructor
      · intro heq
        obtain rfl := Option.some.inj heq
        refine ⟨⟨(hnotifiedAt key _).mpr (.inl ⟨rfl, hkey⟩), fun now hnow => ?_⟩,
          fun now hnow => ?_⟩
        · obtain ⟨rfl, -⟩ | hold := (hnotifiedAt key now).mp hnow
          · exact le_rfl
          · exact hpast key now hold
        · obtain rfl | hold := (hnotifications now).mp hnow
          · simp
          · simp [Nat.sub_eq_zero_of_le (h.past now hold)]
      · rintro ⟨hgreatest, -⟩
        have hle := hgreatest.2 ((hnotifiedAt key _).mpr (.inl ⟨rfl, hkey⟩))
        obtain ⟨rfl, -⟩ | hold := (hnotifiedAt key at').mp hgreatest.1
        · rfl
        · rw [le_antisymm (hpast key at' hold) hle]
    · have hsame : (s.notify task call).notifiedAt key = s.notifiedAt key := by
        ext at'
        rw [hnotifiedAt]
        exact or_iff_right fun hnew => hkey hnew.2
      rw [Option.filter_eq_some_iff, h.exact, hsame, decide_eq_true_eq, and_assoc]
      refine and_congr_right fun hgreatest => ⟨fun hrecent now hnow => ?_, fun hrecent => ?_⟩
      · obtain rfl | hold := (hnotifications now).mp hnow
        · exact hrecent.2
        · exact hrecent.1 now hold
      · exact ⟨fun now hnow => hrecent now ((hnotifications now).mpr (.inr hnow)),
          hrecent _ ((hnotifications _).mpr (.inl rfl))⟩

/-- **Every event keeps what is remembered.** -/
lemma step (h : Remembered s) (hforward : Forward s e) (hstep : s.step e = some s') :
    Remembered s' := by
  cases happens_of_step hstep with
  | tick now => exact h.of_eq hforward rfl fun _ _ => Iff.rfl
  | create workspaceId created =>
    refine h.of_eq le_rfl rfl fun call hnotified => ?_
    rw [System.create, List.mem_append, List.mem_singleton, or_iff_left]
    rintro rfl
    exact hnotified rfl
  | notify task call hcall hpending => exact h.notify hcall hpending
  | resume p poll since result hpoll hphase =>
    unfold System.resume
    dsimp only
    split_ifs
    · exact h.of_eq le_rfl rfl fun _ _ => Iff.rfl
    · split
      · exact h.of_eq le_rfl rfl fun _ _ => Iff.rfl
      · exact h.of_eq le_rfl rfl fun _ _ => Iff.rfl
      · next w hwait =>
        obtain ⟨-, -, -, rfl⟩ := DeliveryWaiters.wait_inr hwait
        exact h.of_eq le_rfl rfl fun _ _ => Iff.rfl
  | abort p poll hpoll =>
    unfold System.abort
    dsimp only
    split_ifs
    · exact h.of_eq le_rfl rfl fun _ _ => Iff.rfl
    · exact h.of_eq le_rfl rfl fun _ _ => Iff.rfl
  | close => exact h.of_eq le_rfl DeliveryWaiters.close_lastNotified fun _ _ => Iff.rfl
  | write id status => exact h.of_eq le_rfl rfl fun _ _ => Iff.rfl
  | remove id => exact h.of_eq le_rfl rfl fun _ _ => Iff.rfl
  | request workspaceId agentId query wait hvalid => exact h.of_eq le_rfl rfl fun _ _ => Iff.rfl
  | read p poll hpoll hphase => exact h.of_eq le_rfl rfl fun _ _ => Iff.rfl
  | list p poll since hpoll hphase => exact h.of_eq le_rfl rfl fun _ _ => Iff.rfl
  | fire p poll hpoll hphase hdue => exact h.of_eq le_rfl rfl fun _ _ => Iff.rfl

end Remembered

/-- **The memory of notifications is exact.** A key is remembered with the latest time at which it
was notified, if that is at most a minute before every notification, and is forgotten otherwise. -/
theorem lastNotified_exact (hforward : Along System.step Forward .start es)
    (hrun : run System.step .start es = some s) (key : String) (at' : Millis) :
    s.waiters.lastNotified.get? key = some at' ↔ IsGreatest (s.notifiedAt key) at' ∧
      ∀ now ∈ s.notifications, now - at' ≤ DELIVERY_NOTIFY_MEMORY_MS :=
  (along_induction (I := Remembered) (fun _ _ _ h hforward hstep => h.step hforward hstep) .start
    hforward hrun).exact key at'

/-- An agent is notified, and another more than a minute later: the first is forgotten. -/
theorem lastNotified_exact_forgotten : ∃ s, run System.step .start
    [.tick 1000, .create "ws" [⟨"d1", "alice", none, 1⟩], .create "ws" [⟨"d2", "bob", none, 1⟩],
      .notify 0, .tick 61001, .notify 1] = some s ∧
      IsGreatest (System.notifiedAt s (waiterKey "ws" "bob")) 61001 := by
  have hany : (run System.step .start
      [.tick 1000, .create "ws" [⟨"d1", "alice", none, 1⟩], .create "ws" [⟨"d2", "bob", none, 1⟩],
        .notify 0, .tick 61001, .notify 1]).any (fun s =>
          s.waiters.lastNotified.get? (waiterKey "ws" "bob") == some 61001) = true := by
    decide +kernel
  obtain ⟨s, hrun, hs⟩ := Option.any_eq_true _ _ |>.mp hany
  exact ⟨s, hrun, ((lastNotified_exact (by decide +kernel) hrun _ _).mp (beq_iff_eq.mp hs)).1⟩

/-! ## What is answered -/

/-- A request that is answered with nothing is late, or its client is gone, or the process is shut
down. -/
def Excused (s : System) (poll : Poll) : Prop :=
  poll.phase = .answered [] →
    poll.aborted = true ∨ s.waiters.closed = true ∨ poll.deadline ≤ s.clock

namespace Excused

variable {poll : Poll} {p : PollId} {phase : Phase}

lemma mono (hclock : s.clock ≤ s'.clock)
    (hclosed : s.waiters.closed = true → s'.waiters.closed = true) (h : Excused s poll) :
    Excused s' poll :=
  fun hphase => (h hphase).imp_right (Or.imp hclosed hclock.trans')

lemma of_phase (hphase : poll.phase ≠ .answered []) : Excused s poll :=
  fun hanswered => absurd hanswered hphase

/-- One request goes on, with an excuse if it is answered with nothing. -/
lemma setPhase (h : ∀ poll ∈ s.polls, Excused s poll) (hpoll : s.polls[p]? = some poll)
    (hexcuse : Excused s { poll with phase }) :
    ∀ poll' ∈ (s.setPhase p phase).polls, Excused s poll' := by
  intro poll' hmem
  obtain ⟨q, hq⟩ := List.getElem?_of_mem hmem
  rw [System.getElem?_setPhase] at hq
  split_ifs at hq with hpq
  · rw [← hpq, hpoll] at hq
    obtain rfl := Option.some.inj hq
    exact hexcuse
  · exact h poll' (List.mem_of_getElem? hq)

lemma resume {since : Millis} {result : List DeliveryId} (h : ∀ poll ∈ s.polls, Excused s poll)
    (hpoll : s.polls[p]? = some poll) :
    ∀ poll' ∈ (s.resume p poll since result).polls,
      Excused (s.resume p poll since result) poll' := by
  unfold System.resume
  dsimp only
  split_ifs with hanswer
  · refine setPhase h hpoll fun hanswered => .inr (.inr ?_)
    obtain rfl : result = [] := by simpa using hanswered
    exact Nat.le_of_sub_eq_zero (hanswer.resolve_left (by simp))
  · rw [not_or] at hanswer
    split
    · next hwait =>
      refine setPhase h hpoll fun _ => ?_
      obtain hclosed | haborted | hnow := DeliveryWaiters.wait_timeout hwait
      · exact .inr (.inl hclosed)
      · exact .inl haborted
      · exact absurd hnow hanswer.2
    · exact setPhase h hpoll (of_phase (by simp))
    · next w hwait =>
      obtain ⟨-, -, -, rfl⟩ := DeliveryWaiters.wait_inr hwait
      exact setPhase (s := { s with waiters := s.waiters.register poll.key p }) h hpoll
        (of_phase (by simp))

lemma abort (h : ∀ poll ∈ s.polls, Excused s poll) (hpoll : s.polls[p]? = some poll) :
    ∀ poll' ∈ (s.abort p poll).polls, Excused (s.abort p poll) poll' := by
  have hflag : ∀ poll' ∈ s.polls.modify p fun poll => { poll with aborted := true },
      Excused s poll' := by
    intro poll' hmem
    obtain ⟨q, hq⟩ := List.getElem?_of_mem hmem
    rw [List.getElem?_modify] at hq
    obtain ⟨poll, hpoll, rfl⟩ := Option.map_eq_some_iff.mp hq
    split_ifs
    · exact fun _ => .inl rfl
    · exact h poll (List.mem_of_getElem? hpoll)
  unfold System.abort
  dsimp only
  split_ifs
  · exact @setPhase { s with
        polls := s.polls.modify p fun poll => { poll with aborted := true }
        waiters := s.waiters.finish poll.key p } { poll with aborted := true } p _ hflag
      (by simp [hpoll]) fun _ => .inl rfl
  · exact hflag

/-- **No event answers a request with nothing without an excuse.** -/
lemma step (h : ∀ poll ∈ s.polls, Excused s poll) (hforward : Forward s e)
    (hstep : s.step e = some s') : ∀ poll ∈ s'.polls, Excused s' poll := by
  cases happens_of_step hstep with
  | tick now => exact fun poll hpoll => (h poll hpoll).mono hforward id
  | create workspaceId created => exact h
  | write id status => exact h
  | remove id => exact h
  | notify task call hcall hpending =>
    intro poll' hmem
    obtain ⟨q, hq⟩ := List.getElem?_of_mem hmem
    simp only [System.notify, System.resolve, List.getElem?_mapIdx, Option.map_eq_some_iff] at hq
    obtain ⟨poll, hpoll, rfl⟩ := hq
    split_ifs
    · exact of_phase (by simp)
    · exact mono (s := s) le_rfl (fun hclosed => DeliveryWaiters.notify_closed.trans hclosed)
        (h poll (List.mem_of_getElem? hpoll))
  | request workspaceId agentId query wait hvalid =>
    intro poll hmem
    obtain hold | hnew := List.mem_append.mp hmem
    · exact h poll hold
    · exact of_phase (by simp [List.mem_singleton.mp hnew])
  | read p poll hpoll hphase => exact setPhase h hpoll (of_phase (by simp))
  | list p poll since hpoll hphase => exact setPhase h hpoll (of_phase (by simp))
  | resume p poll since result hpoll hphase => exact resume h hpoll
  | fire p poll hpoll hphase hdue =>
    exact setPhase (s := { s with waiters := s.waiters.finish poll.key p }) h hpoll
      fun _ => .inr (.inr hdue)
  | abort p poll hpoll => exact abort h hpoll
  | close => exact fun poll _ _ => .inr (.inl DeliveryWaiters.close_closed)

end Excused

/-- **A request is answered with nothing only for a reason.** While the clock does not run
backwards, one that is answered with nothing is past its deadline, unless its client is gone or the
process is shut down. -/
theorem answered_empty (hforward : Along System.step Forward .start es)
    (hrun : run System.step .start es = some s) {poll : Poll} (hpoll : poll ∈ s.polls)
    (hanswered : poll.phase = .answered []) :
    poll.aborted = true ∨ s.waiters.closed = true ∨ poll.deadline ≤ s.clock :=
  along_induction (I := fun s => ∀ poll ∈ s.polls, Excused s poll)
    (fun _ _ _ h hforward hstep => Excused.step h hforward hstep)
    (fun _ h => absurd h List.not_mem_nil) hforward hrun poll hpoll hanswered

/-- A request waits until its timer fires. -/
theorem answered_empty_late : ∃ s poll, run System.step .start
    [.tick 1000, .request "ws" "alice" ⟨none, none⟩ (some 25000), .read 0, .list 0, .resume 0,
      .tick 26000, .fire 0] = some s ∧ poll ∈ System.polls s ∧ poll.phase = .answered [] ∧
      (poll.aborted = true ∨ s.waiters.closed = true ∨ poll.deadline ≤ s.clock) := by
  have hany : (run System.step .start
      [.tick 1000, .request "ws" "alice" ⟨none, none⟩ (some 25000), .read 0, .list 0, .resume 0,
        .tick 26000, .fire 0]).any (fun s =>
          s.polls.any fun poll => poll.phase == .answered []) = true := by decide +kernel
  obtain ⟨s, hrun, hs⟩ := Option.any_eq_true _ _ |>.mp hany
  obtain ⟨poll, hpoll, hp⟩ := List.any_eq_true.mp hs
  have hanswered := beq_iff_eq.mp hp
  exact ⟨s, poll, hrun, hpoll, hanswered,
    answered_empty (by decide +kernel) hrun hpoll hanswered⟩

end LongPoll
