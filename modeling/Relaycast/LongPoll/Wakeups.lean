import Relaycast.LongPoll.Registered

/-!
# No wakeup is lost

A request that read nothing either has missed nothing that was announced since, or will find that it
was notified (`Caught`).  This is what the minute is for: what is forgotten was notified so long ago
that a request which began to read before can only answer.
-/

namespace LongPoll

open Delivery (DeliveryId DeliveryStatus)
open Script Relational Reactive

variable {s s' : System} {e : Event}

/-! ## What a request has missed -/

/-- The row was announced. -/
def System.Announced (s : System) (r : DeliveryRow) : Prop :=
  ∃ call, s.tasks[r.task]? = some call ∧ call.notified ≠ none

/-- The request would be answered with the row, which was announced, and is not one that was made
active again. -/
def System.Misses (s : System) (poll : Poll) (r : DeliveryRow) : Prop :=
  r ∈ s.deliveries ∧ selects s.clock poll.workspaceId poll.agentId poll.query r = true ∧
    r.deferred = false ∧ s.Announced r

/-- A request that began to read at `since` finds that it was notified, or finds that it is late. -/
def System.Recalls (s : System) (key : String) (since : Millis) : Prop :=
  (∃ at', s.waiters.lastNotified.get? key = some at' ∧ since ≤ at') ∨
    since + DELIVERY_NOTIFY_MEMORY_MS < s.clock

/-- What a request has missed, by its phase. -/
def Caught (s : System) (poll : Poll) : Prop :=
  match poll.phase with
  | .woken => poll.deadline ≤ s.clock + MAX_DELIVERY_WAIT_MS
  | .reading since => since ≤ s.clock ∧ poll.deadline ≤ since + MAX_DELIVERY_WAIT_MS
  | .listed since result => since ≤ s.clock ∧ poll.deadline ≤ since + MAX_DELIVERY_WAIT_MS ∧
      (result = [] → poll.query.status = none → ∀ r, s.Misses poll r → s.Recalls poll.key since)
  | .parked => poll.deadline ≤ s.clock + MAX_DELIVERY_WAIT_MS ∧
      (poll.query.status = none → ∀ r, ¬ s.Misses poll r)
  | .answered _ => True

/-- The rows are those their routing calls announce, the times that are remembered are in order, and
no request has missed a thing. -/
structure Sound (s : System) : Prop where
  announced : ∀ r ∈ s.deliveries, ∃ call, s.tasks[r.task]? = some call ∧
    call.workspaceId = r.workspaceId ∧ r.agentId ∈ call.agentIds
  ordered : s.waiters.Ordered s.clock
  caught : ∀ poll ∈ s.polls, Caught s poll

variable {poll : Poll} {p : PollId} {phase : Phase} {r : DeliveryRow}

lemma selects_iff {now : Millis} : selects now poll.workspaceId poll.agentId poll.query r = true ↔
    r.workspaceId = poll.workspaceId ∧ r.agentId = poll.agentId ∧
      match poll.query.status with
      | some status => r.status = status
      | none => r.status.isActive = true ∧ ∀ at', r.expiresAt = some at' → toSeconds now < at' := by
  unfold selects
  rw [Bool.and_eq_true, Bool.and_eq_true, beq_iff_eq, beq_iff_eq, and_assoc]
  refine and_congr_right fun _ => and_congr_right fun _ => ?_
  cases poll.query.status with
  | some status => exact beq_iff_eq
  | none => simp [Option.all_eq_true]

/-- A row that is selected later was selected before: the active rows only expire. -/
lemma selects_of_le {now now' : Millis} (hle : now ≤ now')
    (h : selects now' poll.workspaceId poll.agentId poll.query r = true) :
    selects now poll.workspaceId poll.agentId poll.query r = true := by
  rw [selects_iff] at h ⊢
  refine ⟨h.1, h.2.1, ?_⟩
  have hrest := h.2.2
  cases hstatus : poll.query.status with
  | some status => simpa only [hstatus] using hrest
  | none =>
    simp only [hstatus] at hrest ⊢
    exact ⟨hrest.1, fun at' hat => lt_of_le_of_lt (Nat.div_le_div_right hle) (hrest.2 at' hat)⟩

/-- The list is empty only if no row is selected. -/
lemma not_selects_of_listDeliveries {rows : List DeliveryRow} {now : Millis}
    (h : listDeliveries rows now poll.workspaceId poll.agentId poll.query = []) (hr : r ∈ rows) :
    selects now poll.workspaceId poll.agentId poll.query r ≠ true := by
  intro hselects
  have hmem : r ∈ (rows.filter
      (selects now poll.workspaceId poll.agentId poll.query)).insertionSort createdLe := by
    rw [List.mem_insertionSort, List.mem_filter]
    exact ⟨hr, hselects⟩
  rw [listDeliveries, List.map_eq_nil_iff, List.take_eq_nil_iff] at h
  obtain hlimit | hnil := h
  · omega
  · rw [hnil] at hmem
    exact absurd hmem List.not_mem_nil

/-- What was missed later was missed before, and what was recalled is still recalled. -/
lemma Caught.mono (hclock : s.clock ≤ s'.clock)
    (hmisses : ∀ r, s'.Misses poll r → ∃ r, s.Misses poll r)
    (hrecalls : ∀ since, s.Recalls poll.key since → s'.Recalls poll.key since)
    (h : Caught s poll) : Caught s' poll := by
  unfold Caught at h ⊢
  cases hphase : poll.phase with
  | woken =>
    simp only [hphase] at h ⊢
    exact h.trans (Nat.add_le_add_right hclock _)
  | reading since =>
    simp only [hphase] at h ⊢
    exact ⟨h.1.trans hclock, h.2⟩
  | listed since result =>
    simp only [hphase] at h ⊢
    refine ⟨h.1.trans hclock, h.2.1, fun hresult hstatus r hr => ?_⟩
    obtain ⟨r₀, hr₀⟩ := hmisses r hr
    exact hrecalls since (h.2.2 hresult hstatus r₀ hr₀)
  | parked =>
    simp only [hphase] at h ⊢
    refine ⟨h.1.trans (Nat.add_le_add_right hclock _), fun hstatus r hr => ?_⟩
    obtain ⟨r₀, hr₀⟩ := hmisses r hr
    exact h.2 hstatus r₀ hr₀
  | answered result => trivial

/-- Nothing that a request depends on has changed. -/
lemma Caught.congr (hclock : s'.clock = s.clock) (hrows : s'.deliveries = s.deliveries)
    (htasks : s'.tasks = s.tasks) (hlast : s'.waiters.lastNotified = s.waiters.lastNotified)
    (h : Caught s poll) : Caught s' poll := by
  refine h.mono hclock.ge (fun r hr => ⟨r, ?_⟩) fun since => ?_
  · simpa only [System.Misses, System.Announced, hclock, hrows, htasks] using hr
  · simp only [System.Recalls, hclock, hlast, imp_self]

namespace Sound

lemma start : Sound .start :=
  ⟨fun _ h => absurd h List.not_mem_nil, .start, fun _ h => absurd h List.not_mem_nil⟩

/-- Requests go on, and the rest is as it was. -/
lemma of_polls (h : Sound s) (hclock : s'.clock = s.clock) (hrows : s'.deliveries = s.deliveries)
    (htasks : s'.tasks = s.tasks) (hlast : s'.waiters.lastNotified = s.waiters.lastNotified)
    (hpolls : ∀ poll ∈ s'.polls, poll ∈ s.polls ∨ Caught s poll) : Sound s' := by
  refine ⟨hrows ▸ htasks ▸ h.announced, hclock ▸ h.ordered.of_eq hlast, fun poll hpoll => ?_⟩
  obtain hold | hnew := hpolls poll hpoll
  · exact (h.caught poll hold).congr hclock hrows htasks hlast
  · exact hnew.congr hclock hrows htasks hlast

lemma tick {now : Millis} (h : Sound s) (hle : s.clock ≤ now) : Sound { s with clock := now } := by
  refine ⟨h.announced, h.ordered.mono hle, fun poll hpoll => (h.caught poll hpoll).mono hle ?_ ?_⟩
  · rintro r ⟨hmem, hselects, hrest⟩
    exact ⟨r, hmem, selects_of_le hle hselects, hrest⟩
  · rintro since (hat | hlate)
    · exact .inl hat
    · exact .inr (hlate.trans_le hle)

lemma create {workspaceId : String} {created : List NewDelivery} (h : Sound s) :
    Sound (s.create workspaceId created) := by
  constructor
  · intro r hr
    obtain hold | hnew := List.mem_append.mp hr
    · obtain ⟨call, hcall, hrest⟩ := h.announced r hold
      refine ⟨call, ?_, hrest⟩
      exact (List.getElem?_append_left (List.getElem?_eq_some_iff.mp hcall).1).trans hcall
    · obtain ⟨d, hd, rfl⟩ := List.mem_map.mp hnew
      exact ⟨_, List.getElem?_concat_length, rfl, List.mem_map_of_mem hd⟩
  · exact h.ordered
  · refine fun poll hpoll => Caught.mono (s := s) le_rfl (fun r hr => ⟨r, ?_⟩) (fun _ => id)
      (h.caught poll hpoll)
    obtain ⟨hmem, hselects, hdeferred, call, hcall, hnotified⟩ := hr
    obtain hold | hnew := List.mem_append.mp hmem
    · obtain ⟨call', hcall', -⟩ := h.announced r hold
      have hsame : (s.create workspaceId created).tasks[r.task]? = s.tasks[r.task]? :=
        List.getElem?_append_left (List.getElem?_eq_some_iff.mp hcall').1
      exact ⟨hold, hselects, hdeferred, call, hsame ▸ hcall, hnotified⟩
    · obtain ⟨d, -, rfl⟩ := List.mem_map.mp hnew
      obtain rfl := Option.some.inj (List.getElem?_concat_length.symm.trans hcall)
      exact absurd rfl hnotified

/-- Rows are written or deleted, and none is made active unnoticed. -/
lemma of_rows {rows : List DeliveryRow} (h : Sound s)
    (hrows : ∀ r ∈ rows, ∃ r₀ ∈ s.deliveries, r₀.task = r.task ∧ r₀.workspaceId = r.workspaceId ∧
      r₀.agentId = r.agentId ∧ (∀ poll ∈ s.polls, poll.query.status = none → r.deferred = false →
        selects s.clock poll.workspaceId poll.agentId poll.query r = true → r₀.deferred = false ∧
          selects s.clock poll.workspaceId poll.agentId poll.query r₀ = true)) :
    Sound { s with deliveries := rows } := by
  refine ⟨fun r hr => ?_, h.ordered, fun poll hpoll => ?_⟩
  · obtain ⟨r₀, hr₀, htask, hworkspace, hagent, -⟩ := hrows r hr
    rw [← htask, ← hworkspace, ← hagent]
    exact h.announced r₀ hr₀
  · by_cases hstatus : poll.query.status = none
    · refine Caught.mono (s := s) le_rfl (fun r hr => ?_) (fun _ => id) (h.caught poll hpoll)
      obtain ⟨r₀, hr₀, htask, -, -, hsame⟩ := hrows r hr.1
      obtain ⟨hdeferred, hselects⟩ := hsame poll hpoll hstatus hr.2.2.1 hr.2.1
      refine ⟨r₀, hr₀, hselects, hdeferred, ?_⟩
      obtain ⟨call, hcall, hnotified⟩ := hr.2.2.2
      exact ⟨call, htask.symm ▸ hcall, hnotified⟩
    · have hcaught := h.caught poll hpoll
      unfold Caught at hcaught ⊢
      cases hphase : poll.phase with
      | woken => simpa only [hphase] using hcaught
      | reading since => simpa only [hphase] using hcaught
      | listed since result =>
        simp only [hphase] at hcaught ⊢
        exact ⟨hcaught.1, hcaught.2.1, fun _ hnone => absurd hnone hstatus⟩
      | parked =>
        simp only [hphase] at hcaught ⊢
        exact ⟨hcaught.1, fun hnone => absurd hnone hstatus⟩
      | answered result => trivial

lemma write {id : DeliveryId} {status : DeliveryStatus} (h : Sound s) :
    Sound (s.write id status) := by
  refine h.of_rows fun r hr => ?_
  obtain ⟨r₀, hr₀, rfl⟩ := List.mem_map.mp hr
  split_ifs with hid
  · refine ⟨r₀, hr₀, rfl, rfl, rfl, fun poll _ hstatus hdeferred hselects => ?_⟩
    rw [selects_iff] at hselects ⊢
    simp only [hstatus] at hselects ⊢
    simp only [Bool.or_eq_false_iff, hselects.2.2.1, Bool.and_true, Bool.not_eq_eq_eq_not,
      Bool.not_false] at hdeferred
    exact ⟨hdeferred.1, hselects.1, hselects.2.1, hdeferred.2, hselects.2.2.2⟩
  · exact ⟨r₀, hr₀, rfl, rfl, rfl, fun _ _ _ hdeferred hselects => ⟨hdeferred, hselects⟩⟩

lemma remove {id : DeliveryId} (h : Sound s) :
    Sound { s with deliveries := s.deliveries.filter (·.id != id) } :=
  h.of_rows fun r hr => ⟨r, List.mem_of_mem_filter hr, rfl, rfl, rfl,
    fun _ _ _ hdeferred hselects => ⟨hdeferred, hselects⟩⟩

/-- A request that goes on, and the others as they were. -/
lemma setPhase (h : Sound s) (hpoll : s.polls[p]? = some poll)
    (hcaught : Caught s { poll with phase }) : Sound (s.setPhase p phase) := by
  refine h.of_polls rfl rfl rfl rfl fun poll' hmem => ?_
  obtain ⟨q, hq⟩ := List.getElem?_of_mem hmem
  rw [System.getElem?_setPhase] at hq
  split_ifs at hq with hpq
  · rw [← hpq, hpoll] at hq
    obtain rfl := Option.some.inj hq
    exact .inr hcaught
  · exact .inl (List.mem_of_getElem? hq)

/-- The announcements of a notification are those of its keys. -/
lemma misses_notify {task : ℕ} {call : RoutingCall} (h : Sound s)
    (hcall : s.tasks[task]? = some call)
    (hmisses : (s.notify task call).Misses poll r) : s.Misses poll r ∨
      poll.key ∈ DeliveryWaiters.notifyKeys call.workspaceId call.agentIds := by
  obtain ⟨hmem, hselects, hdeferred, call', hcall', hnotified⟩ := hmisses
  obtain ⟨call₀, hcall₀, hworkspace, hagent⟩ := h.announced r hmem
  by_cases htask : r.task = task
  · obtain rfl := Option.some.inj (hcall.symm.trans (htask ▸ hcall₀))
    have hof := selects_iff.mp hselects
    refine .inr ?_
    rw [Poll.key, ← hof.1, ← hof.2.1, ← hworkspace]
    exact DeliveryWaiters.mem_notifyKeys hagent
  · refine .inl ⟨hmem, hselects, hdeferred, call', ?_, hnotified⟩
    rwa [System.notify, List.getElem?_set_ne (Ne.symm htask)] at hcall'

lemma recalls_notify {task : ℕ} {call : RoutingCall} {key : String} {since : Millis} (h : Sound s)
    (hsince : since ≤ s.clock)
    (hrecalls : key ∉ DeliveryWaiters.notifyKeys call.workspaceId call.agentIds →
      s.Recalls key since) : (s.notify task call).Recalls key since := by
  unfold System.Recalls System.notify
  dsimp only
  rw [h.ordered.get?_notify]
  split_ifs with hkey
  · exact .inl ⟨s.clock, rfl, hsince⟩
  · obtain ⟨at', hat, hle⟩ | hlate := hrecalls hkey
    · by_cases hold : s.clock - at' ≤ DELIVERY_NOTIFY_MEMORY_MS
      · refine .inl ⟨at', ?_, hle⟩
        rw [hat, Option.filter_some, if_pos (decide_eq_true hold)]
      · refine .inr (lt_of_le_of_lt (Nat.add_le_add_right hle _) ?_)
        rw [add_comm]
        exact Nat.add_lt_of_lt_sub (Nat.lt_of_not_le hold)
    · exact .inr hlate

lemma notify {task : ℕ} {call : RoutingCall} (hregistered : Registered s) (h : Sound s)
    (hcall : s.tasks[task]? = some call) : Sound (s.notify task call) := by
  refine ⟨fun r hr => ?_, h.ordered.notify, fun poll' hmem => ?_⟩
  · obtain ⟨call₀, hcall₀, hof⟩ := h.announced r hr
    by_cases htask : r.task = task
    · obtain rfl := Option.some.inj (hcall.symm.trans (htask ▸ hcall₀))
      refine ⟨{ call with notified := some s.clock }, ?_, hof⟩
      simp [System.notify, htask, List.getElem?_eq_some_iff.mp hcall |>.1]
    · exact ⟨call₀, (List.getElem?_set_ne (Ne.symm htask)).trans hcall₀, hof⟩
  · rw [hregistered.polls_notify] at hmem
    obtain ⟨poll, hpoll, rfl⟩ := List.mem_map.mp hmem
    have hcaught := h.caught poll hpoll
    unfold Poll.wake
    split_ifs with hwoken
    · simp only [Caught, hwoken.1] at hcaught
      exact hcaught.1
    · unfold Caught at hcaught ⊢
      cases hphase : poll.phase with
      | woken =>
        simp only [hphase] at hcaught
        exact hcaught
      | reading since =>
        simp only [hphase] at hcaught
        exact hcaught
      | listed since result =>
        simp only [hphase] at hcaught ⊢
        refine ⟨hcaught.1, hcaught.2.1, fun hresult hstatus r hr => ?_⟩
        exact h.recalls_notify hcaught.1 fun hkey =>
          hcaught.2.2 hresult hstatus r ((h.misses_notify hcall hr).resolve_right hkey)
      | parked =>
        simp only [hphase] at hcaught ⊢
        refine ⟨hcaught.1, fun hstatus r hr => hcaught.2 hstatus r ?_⟩
        exact ((h.misses_notify hcall hr).resolve_right fun hkey => hwoken ⟨hphase, hkey⟩)
      | answered result => trivial

lemma request {workspaceId agentId : String} {query : Query} {wait : Option ℕ} (h : Sound s)
    (hvalid : query.valid wait = true) : Sound { s with polls := s.polls ++
      [⟨workspaceId, agentId, query, s.clock + wait.getD 0, false, .woken⟩] } := by
  refine h.of_polls rfl rfl rfl rfl fun poll hmem => ?_
  obtain hold | hnew := List.mem_append.mp hmem
  · exact .inl hold
  · obtain rfl := List.mem_singleton.mp hnew
    have hwait : wait.getD 0 ≤ MAX_DELIVERY_WAIT_MS := by
      cases wait with
      | none => exact Nat.zero_le _
      | some wait => simpa [Query.valid] using (Bool.and_eq_true_iff.mp hvalid).2
    exact .inr (Nat.add_le_add_left hwait _)

lemma list {since : Millis} (h : Sound s) (hpoll : s.polls[p]? = some poll)
    (hphase : poll.phase = .reading since) : Sound (s.setPhase p (.listed since
      (listDeliveries s.deliveries since poll.workspaceId poll.agentId poll.query))) := by
  have hcaught := h.caught poll (List.mem_of_getElem? hpoll)
  simp only [Caught, hphase] at hcaught
  refine h.setPhase hpoll ⟨hcaught.1, hcaught.2, fun hresult _ r hr => ?_⟩
  exact absurd (selects_of_le hcaught.1 hr.2.1) (not_selects_of_listDeliveries hresult hr.1)

lemma finish (h : Sound s) : Sound (s.finish p poll) := by
  refine h.of_polls rfl rfl rfl rfl fun poll' hmem => ?_
  obtain hphase | hold := System.mem_setPhase hmem
  · refine .inr ?_
    simp only [Caught, hphase]
  · exact .inl hold

lemma abort (h : Sound s) : Sound (s.abort p poll) := by
  have hflag : Sound
      { s with polls := s.polls.modify p fun poll => { poll with aborted := true } } := by
    refine h.of_polls rfl rfl rfl rfl fun poll' hmem => ?_
    obtain ⟨q, hq⟩ := List.getElem?_of_mem hmem
    rw [List.getElem?_modify] at hq
    obtain ⟨poll, hpoll, rfl⟩ := Option.map_eq_some_iff.mp hq
    have hcaught := h.caught poll (List.mem_of_getElem? hpoll)
    split_ifs
    · exact .inr hcaught
    · exact .inr hcaught
  unfold System.abort
  dsimp only
  split_ifs
  · exact hflag.finish
  · exact hflag

lemma resume {since : Millis} {result : List DeliveryId} (h : Sound s)
    (hpoll : s.polls[p]? = some poll) (hphase : poll.phase = .listed since result) :
    Sound (s.resume p poll since result) := by
  have hcaught := h.caught poll (List.mem_of_getElem? hpoll)
  simp only [Caught, hphase] at hcaught
  obtain ⟨hsince, hdeadline, hrecalls⟩ := hcaught
  have hlate : poll.deadline ≤ s.clock + MAX_DELIVERY_WAIT_MS :=
    hdeadline.trans (Nat.add_le_add_right hsince _)
  unfold System.resume
  dsimp only
  split_ifs with hanswer
  · exact h.setPhase hpoll trivial
  · split
    · exact h.setPhase hpoll trivial
    · exact h.setPhase hpoll hlate
    · next w hwait =>
      obtain ⟨-, -, hforgotten, rfl⟩ := DeliveryWaiters.wait_inr hwait
      rw [not_or, not_not] at hanswer
      have hregistered : Sound { s with waiters := s.waiters.register poll.key p } :=
        h.of_polls rfl rfl rfl rfl fun poll' => .inl
      refine hregistered.setPhase hpoll ⟨hlate, fun hstatus r hr => ?_⟩
      -- the wait is shorter than the memory, so that nothing was forgotten since it began to read
      obtain ⟨at', hat, hle⟩ | hold := hrecalls hanswer.1 hstatus r hr
      · exact absurd (hforgotten at' hat) (Nat.not_lt.mpr hle)
      · have hearly : s.clock < poll.deadline :=
          Nat.lt_of_sub_ne_zero hanswer.2
        have hshort : since + MAX_DELIVERY_WAIT_MS ≤ since + DELIVERY_NOTIFY_MEMORY_MS :=
          Nat.add_le_add_left (by decide) _
        exact absurd (hold.trans hearly) (Nat.not_lt.mpr (hdeadline.trans hshort))

lemma close (h : Sound s) : Sound s.close := by
  refine h.of_polls rfl rfl rfl DeliveryWaiters.close_lastNotified fun poll hmem => ?_
  obtain ⟨q, hq⟩ := List.getElem?_of_mem hmem
  simp only [System.close, System.resolve, List.getElem?_mapIdx, Option.map_eq_some_iff] at hq
  obtain ⟨poll', hpoll', rfl⟩ := hq
  split_ifs
  · exact .inr trivial
  · exact .inl (List.mem_of_getElem? hpoll')

/-- **No event makes a request miss anything.** -/
lemma step (hregistered : Registered s) (h : Sound s) (hforward : Forward s e)
    (hstep : s.step e = some s') : Sound s' := by
  cases happens_of_step hstep with
  | tick now => exact h.tick hforward
  | create workspaceId created => exact h.create
  | notify task call hcall hpending => exact h.notify hregistered hcall
  | write id status => exact h.write
  | remove id => exact h.remove
  | request workspaceId agentId query wait hvalid => exact h.request hvalid
  | read p poll hpoll hphase =>
    have hcaught := h.caught poll (List.mem_of_getElem? hpoll)
    simp only [Caught, hphase] at hcaught
    exact h.setPhase hpoll ⟨le_rfl, hcaught⟩
  | list p poll since hpoll hphase => exact h.list hpoll hphase
  | resume p poll since result hpoll hphase => exact h.resume hpoll hphase
  | fire p poll hpoll hphase hdue => exact h.finish
  | abort p poll hpoll => exact h.abort
  | close => exact h.close

end Sound

/-! ## Runs -/

variable {es : List Event}

lemma sound_of_run (hforward : Along System.step Forward .start es)
    (hrun : run System.step .start es = some s) : Registered s ∧ Sound s :=
  along_induction (I := fun s => Registered s ∧ Sound s)
    (fun _ _ _ h hforward hstep => ⟨h.1.step hstep, h.2.step h.1 hforward hstep⟩)
    ⟨.start, .start⟩ hforward hrun

/-- A request reads nothing, a delivery is created and announced, and the request, which finds that
it was notified, reads again; then it waits, while another delivery is created. -/
def announcedMeanwhile : List Event :=
  [.tick 1000, .request "ws" "alice" ⟨none, none⟩ (some 25000), .read 0, .list 0,
    .create "ws" [⟨"d1", "alice", some 90, 1⟩], .notify 0, .resume 0, .tick 2000, .read 0,
    .write "d1" .acked, .list 0, .resume 0, .create "ws" [⟨"d2", "alice", none, 2⟩]]

/-- A delivery that failed is deferred, and is active again; the request waits on. -/
example : (run System.step .start [.create "ws" [⟨"d1", "alice", none, 1⟩], .write "d1" .failed,
    .notify 0, .tick 1000, .request "ws" "alice" ⟨none, none⟩ (some 25000), .read 0, .list 0,
    .resume 0, .write "d1" .queued]).any (fun s => s.polls.any fun poll =>
      poll.phase == .parked &&
        (listDeliveries s.deliveries s.clock "ws" "alice" poll.query == ["d1"])) = true := by
  decide +kernel

end LongPoll
