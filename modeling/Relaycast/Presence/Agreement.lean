import Mathlib.Data.List.Nodup
import Relaycast.Presence.Tracker

/-!
# Presence events and presence

The last event published for an agent says whether the tracker holds an entry for it, in every run
in which no sweep announces an agent that the tracker holds and none drops a map that holds one.
Both can happen: a sweep removes its stale agents at once and announces them one by one, and it
drops whatever map its workspace has by then.
-/

namespace Presence

open Script

/-- What the latest event about the agent says. -/
def lastStatus (events : List StatusEvent) (workspaceId : WorkspaceId) (agentId : AgentId) :
    Option AgentStatus :=
  (events.find? fun e => e.workspaceId == workspaceId && e.subjectAgentId == agentId).map (·.status)

namespace Tracker

/-- Events agree with presence: an agent with an entry is announced active, and one that has lost
its entry is announced offline. -/
def Agrees (s : Tracker) : Prop :=
  ∀ workspaceId agentId,
    ((s.entryFor? workspaceId agentId).isSome = true →
      lastStatus s.published workspaceId agentId = some .active) ∧
    ((workspaceId, agentId) ∈ s.touched → s.entryFor? workspaceId agentId = none →
      lastStatus s.published workspaceId agentId = some .offline)

/-- The condition on a step: a sweep that goes on announces nobody the tracker holds, and drops no
map that holds anybody. -/
def Spares (s : Tracker) : Action → Prop
  | .goOn k =>
    match s.sweeps[k]? with
    | some (some ⟨_, _, workspaceId, _, agent :: _, _⟩) => s.entryFor? workspaceId agent.1 = none
    | some (some ⟨_, _, workspaceId, map, [], _⟩) =>
      s.contents map = [] → ∀ agentId, s.entryFor? workspaceId agentId = none
    | _ => True
  | _ => True

/-- Reachable in a run whose steps satisfy `permits`. -/
def Reachable (ttlMs : ℤ) (permits : Tracker → Action → Prop) (s : Tracker) : Prop :=
  Relation.ReflTransGen (fun s s' => ∃ a, permits s a ∧ s.act ttlMs a = some s') fresh s

/-! ## The maps -/

lemma lookup_setEntry (agentId : AgentId) (entry : PresenceEntry)
    (entries : List (AgentId × PresenceEntry)) (id : AgentId) :
    (setEntry agentId entry entries).lookup id =
      if id = agentId then some entry else entries.lookup id := by
  induction entries with
  | nil =>
    by_cases h : id = agentId
    · simp [setEntry, h]
    · have hne : (id == agentId) = false := by simpa using h
      simp [setEntry, List.lookup_cons, h, hne]
  | cons head rest ih =>
    obtain ⟨key, old⟩ := head
    unfold setEntry
    by_cases hkey : key = agentId
    · subst hkey
      by_cases hid : id = key
      · simp [hid]
      · have hne : (id == key) = false := by simpa using hid
        simp [List.lookup_cons, hid, hne]
    · rw [if_neg hkey, List.lookup_cons, List.lookup_cons, ih]
      by_cases hid : id = key
      · simp [hid, hkey]
      · have hne : (id == key) = false := by simpa using hid
        simp only [hne]

lemma lookup_filter (p : AgentId → Bool) (entries : List (AgentId × PresenceEntry))
    (id : AgentId) :
    (entries.filter fun entry => p entry.1).lookup id =
      if p id then entries.lookup id else none := by
  induction entries with
  | nil => simp
  | cons head rest ih =>
    obtain ⟨key, old⟩ := head
    rw [List.filter_cons]
    by_cases hkey : id = key
    · subst hkey
      by_cases hp : p id = true
      · simp [hp]
      · simp [ih, hp]
    · have hne : (id == key) = false := by simpa using hkey
      by_cases hp : p key = true
      · rw [if_pos hp, List.lookup_cons, hne, ih, List.lookup_cons, hne]
      · rw [if_neg (by simpa using hp), ih, List.lookup_cons, hne]

/-- Every workspace has one map, and every map one workspace. -/
structure WellFormed (s : Tracker) : Prop where
  distinct : (s.workspaces.map (·.workspaceId)).Nodup
  allocated : ∀ slot ∈ s.workspaces, slot.map < s.maps.length
  owned : ∀ slot ∈ s.workspaces, ∀ slot' ∈ s.workspaces, slot.map = slot'.map →
    slot.workspaceId = slot'.workspaceId

variable {s : Tracker} {workspaceId : WorkspaceId} {slot : Slot}

lemma mem_of_slot? (h : s.slot? workspaceId = some slot) :
    slot ∈ s.workspaces ∧ slot.workspaceId = workspaceId :=
  ⟨List.mem_of_find?_eq_some h, by simpa using List.find?_some h⟩

lemma WellFormed.slot?_of_mem (hs : s.WellFormed) (h : slot ∈ s.workspaces) :
    s.slot? slot.workspaceId = some slot := by
  cases hslot : s.slot? slot.workspaceId with
  | none =>
    have := List.find?_eq_none.mp hslot slot h
    simp at this
  | some slot' =>
    obtain ⟨hmem, hid⟩ := mem_of_slot? hslot
    rw [List.inj_on_of_nodup_map hs.distinct hmem h hid]

/-- Changing a map changes the entries of its workspace. -/
lemma WellFormed.entryFor?_modifyMap (hs : s.WellFormed) (h : slot ∈ s.workspaces)
    (f : List (AgentId × PresenceEntry) → List (AgentId × PresenceEntry))
    (w : WorkspaceId) (agentId : AgentId) :
    (s.modifyMap slot.map f).entryFor? w agentId =
      if w = slot.workspaceId then (f (s.contents slot.map)).lookup agentId
      else s.entryFor? w agentId := by
  have hslot : ∀ w, (s.modifyMap slot.map f).slot? w = s.slot? w := fun _ => rfl
  have hlt := hs.allocated slot h
  simp only [entryFor?, hslot]
  split_ifs with hw
  · subst hw
    rw [hs.slot?_of_mem h]
    simp [contents, modifyMap, List.getElem?_modify, hlt]
  · cases hother : s.slot? w with
    | none => rfl
    | some slot' =>
      obtain ⟨hmem, rfl⟩ := mem_of_slot? hother
      have hne : slot.map ≠ slot'.map := fun hmap => hw (hs.owned slot h slot' hmem hmap).symm
      simp [contents, modifyMap, List.getElem?_modify, hne]

lemma WellFormed.modifyMap (hs : s.WellFormed) (map : ℕ)
    (f : List (AgentId × PresenceEntry) → List (AgentId × PresenceEntry)) :
    (s.modifyMap map f).WellFormed :=
  ⟨hs.distinct, fun slot h => by simpa [Tracker.modifyMap] using hs.allocated slot h, hs.owned⟩

/-- Only the workspaces and the number of maps matter. -/
lemma WellFormed.congr {s' : Tracker} (hs : s.WellFormed) (hw : s'.workspaces = s.workspaces)
    (hm : s'.maps.length = s.maps.length) : s'.WellFormed := by
  constructor
  · rw [hw]
    exact hs.distinct
  · rw [hw, hm]
    exact hs.allocated
  · rw [hw]
    exact hs.owned

lemma WellFormed.drop (hs : s.WellFormed) (workspaceId : WorkspaceId) :
    (s.drop workspaceId).WellFormed := by
  have hmem : ∀ {slot}, slot ∈ (s.drop workspaceId).workspaces → slot ∈ s.workspaces :=
    fun h => (List.mem_filter.mp h).1
  exact ⟨hs.distinct.sublist ((List.filter_sublist).map _), fun slot h => hs.allocated slot (hmem h),
    fun slot h slot' h' => hs.owned slot (hmem h) slot' (hmem h')⟩

lemma entryFor?_drop (workspaceId w : WorkspaceId) (agentId : AgentId) :
    (s.drop workspaceId).entryFor? w agentId =
      if w = workspaceId then none else s.entryFor? w agentId := by
  have hslot : (s.drop workspaceId).slot? w = if w = workspaceId then none else s.slot? w := by
    unfold slot? drop
    split_ifs with hw
    · simp [hw]
    · rw [List.find?_filter]
      congr 1
      funext slot
      by_cases hid : slot.workspaceId = w
      · simp [hid, hw]
      · simp [hid]
  unfold entryFor?
  rw [hslot]
  split_ifs with hw
  · rfl
  · rfl

/-! ## What has been started

Broadcasts are published in the order in which they were started, so an agent's status is settled
as soon as its event is started.  An agent that a sweep has removed and not yet announced is
pending. -/

/-- The events published and under way, latest first. -/
def started (s : Tracker) : List StatusEvent :=
  (s.broadcasts.map (·.event)).reverse ++ s.published

/-- Some sweep has still to announce the agent. -/
def Pending (s : Tracker) (workspaceId : WorkspaceId) (agentId : AgentId) : Prop :=
  ∃ (k : ℕ) (sweep : Sweep), s.sweeps[k]? = some (some sweep) ∧ sweep.workspaceId = workspaceId ∧
    ∃ name, (agentId, name) ∈ sweep.stale

/-- What one agent's events say against its entry. -/
def Settled (s : Tracker) (workspaceId : WorkspaceId) (agentId : AgentId) : Prop :=
  ((s.entryFor? workspaceId agentId).isSome = true →
    lastStatus s.started workspaceId agentId = some .active) ∧
  ((workspaceId, agentId) ∈ s.touched → s.entryFor? workspaceId agentId = none →
    lastStatus s.started workspaceId agentId = some .offline ∨ s.Pending workspaceId agentId)

/-- The invariant of a run that spares. -/
structure Inv (s : Tracker) : Prop where
  wellFormed : s.WellFormed
  settled : ∀ workspaceId agentId, s.Settled workspaceId agentId

lemma started_broadcast (event : StatusEvent) (sweep : Option ℕ) :
    (s.broadcast event sweep).started = event :: s.started := by
  simp [started, broadcast]

lemma lastStatus_cons (event : StatusEvent) (events : List StatusEvent) (w : WorkspaceId)
    (agentId : AgentId) :
    lastStatus (event :: events) w agentId =
      if event.workspaceId = w ∧ event.subjectAgentId = agentId then some event.status
      else lastStatus events w agentId := by
  by_cases h : event.workspaceId = w ∧ event.subjectAgentId = agentId
  · simp [lastStatus, h]
  · rw [if_neg h, lastStatus, List.find?_cons_of_neg, lastStatus]
    simpa using h

/-- Nothing about the agent changes where neither its entry nor its events do, and what is pending
stays so. -/
lemma Settled.frame {s' : Tracker} {w : WorkspaceId} {agentId : AgentId} (h : s.Settled w agentId)
    (hentry : s'.entryFor? w agentId = s.entryFor? w agentId)
    (hlast : lastStatus s'.started w agentId = lastStatus s.started w agentId)
    (htouched : (w, agentId) ∈ s'.touched → (w, agentId) ∈ s.touched)
    (hpending : s.Pending w agentId → s'.Pending w agentId) : s'.Settled w agentId := by
  refine ⟨fun hsome => ?_, fun ht hnone => ?_⟩
  · rw [hlast]
    exact h.1 (hentry ▸ hsome)
  · rw [hlast]
    exact (h.2 (htouched ht) (hentry ▸ hnone)).imp_right hpending

/-- An agent with an entry whose latest event is active is settled, and so is one without an entry
whose latest event is offline. -/
lemma settled_active {w : WorkspaceId} {agentId : AgentId}
    (hentry : (s.entryFor? w agentId).isSome = true)
    (hlast : lastStatus s.started w agentId = some .active) : s.Settled w agentId :=
  ⟨fun _ => hlast, fun _ hnone => by simp [hnone] at hentry⟩

lemma settled_offline {w : WorkspaceId} {agentId : AgentId} (hentry : s.entryFor? w agentId = none)
    (hlast : lastStatus s.started w agentId = some .offline ∨ s.Pending w agentId) :
    s.Settled w agentId :=
  ⟨fun hsome => by simp [hentry] at hsome, fun _ _ => hlast⟩

/-! ### `ws` -/

lemma ws_cases (s : Tracker) (workspaceId : WorkspaceId) :
    (∃ slot, s.slot? workspaceId = some slot ∧ s.ws workspaceId = (slot.map, s)) ∨
    (s.slot? workspaceId = none ∧ s.ws workspaceId = (s.maps.length, { s with
      workspaces := s.workspaces ++ [⟨s.inserted, workspaceId, s.maps.length⟩]
      inserted := s.inserted + 1
      maps := s.maps ++ [[]] })) := by
  unfold ws
  cases hslot : s.slot? workspaceId with
  | none => exact .inr ⟨rfl, rfl⟩
  | some slot => exact .inl ⟨slot, rfl, rfl⟩

/-- `ws` finds or creates the map, and changes nobody's entry. -/
lemma ws_spec (hs : s.WellFormed) (workspaceId : WorkspaceId) :
    (s.ws workspaceId).2.WellFormed ∧
    (∃ slot ∈ (s.ws workspaceId).2.workspaces,
      slot.workspaceId = workspaceId ∧ slot.map = (s.ws workspaceId).1) ∧
    (∀ w agentId, (s.ws workspaceId).2.entryFor? w agentId = s.entryFor? w agentId) ∧
    (s.ws workspaceId).2.broadcasts = s.broadcasts ∧ (s.ws workspaceId).2.published = s.published ∧
    (s.ws workspaceId).2.sweeps = s.sweeps ∧ (s.ws workspaceId).2.touched = s.touched := by
  obtain ⟨slot, hslot, h⟩ | ⟨hslot, h⟩ := ws_cases s workspaceId
  · rw [h]
    obtain ⟨hmem, hid⟩ := mem_of_slot? hslot
    exact ⟨hs, ⟨slot, hmem, hid, rfl⟩, fun _ _ => rfl, rfl, rfl, rfl, rfl⟩
  · rw [h]
    have hfresh : ∀ slot ∈ s.workspaces, slot.workspaceId ≠ workspaceId := by
      intro slot hmem hid
      have := List.find?_eq_none.mp hslot slot hmem
      simp [hid] at this
    refine ⟨⟨?_, ?_, ?_⟩, ⟨⟨s.inserted, workspaceId, s.maps.length⟩, by simp, rfl, rfl⟩, ?_,
      rfl, rfl, rfl, rfl⟩
    · simp only [List.map_append, List.map_cons, List.map_nil]
      rw [List.nodup_append]
      refine ⟨hs.distinct, by simp, ?_⟩
      intro id hid id' hid'
      obtain ⟨slot, hmem, rfl⟩ := List.mem_map.mp hid
      rw [List.mem_singleton.mp hid']
      exact hfresh slot hmem
    · intro slot hmem
      simp only [List.length_append, List.length_singleton]
      obtain hold | hnew := List.mem_append.mp hmem
      · have := hs.allocated slot hold
        omega
      · rw [List.mem_singleton.mp hnew]
        exact Nat.lt_succ_self _
    · intro slot hmem slot' hmem' hmap
      obtain hold | hnew := List.mem_append.mp hmem <;>
        obtain hold' | hnew' := List.mem_append.mp hmem'
      · exact hs.owned slot hold slot' hold' hmap
      · rw [List.mem_singleton.mp hnew'] at hmap
        exact absurd (hs.allocated slot hold) (by simp [hmap])
      · rw [List.mem_singleton.mp hnew] at hmap
        exact absurd (hs.allocated slot' hold') (by simp [← hmap])
      · rw [List.mem_singleton.mp hnew, List.mem_singleton.mp hnew']
    · intro w agentId
      unfold entryFor? slot?
      rw [List.find?_append]
      cases hother : s.workspaces.find? fun slot => slot.workspaceId == w with
      | some slot =>
        have hlt := hs.allocated slot (List.mem_of_find?_eq_some hother)
        simp [contents, List.getElem?_append_left hlt]
      | none =>
        by_cases hw : workspaceId = w
        · simp [hw, contents]
        · simp [hw]

lemma ws_started (hs : s.WellFormed) (workspaceId : WorkspaceId) :
    (s.ws workspaceId).2.started = s.started := by
  obtain ⟨-, -, -, hb, hp, -, -⟩ := ws_spec hs workspaceId
  rw [started, started, hb, hp]

lemma WellFormed.entryFor?_slot (hs : s.WellFormed) (h : slot ∈ s.workspaces) (agentId : AgentId) :
    s.entryFor? slot.workspaceId agentId = (s.contents slot.map).lookup agentId := by
  rw [entryFor?, hs.slot?_of_mem h]
  rfl

/-! ### Calls that change one agent -/

/-- The invariant is kept by a step that settles the agent it is about and leaves everybody else as
they were. -/
lemma Inv.update {s' : Tracker} (hs : s.Inv) (workspaceId : WorkspaceId) (agentId : AgentId)
    (hwf : s'.WellFormed) (hself : s'.Settled workspaceId agentId)
    (hothers : ∀ w a, ¬ (workspaceId = w ∧ agentId = a) → s'.entryFor? w a = s.entryFor? w a ∧
      lastStatus s'.started w a = lastStatus s.started w a ∧
      ((w, a) ∈ s'.touched → (w, a) ∈ s.touched) ∧ (s.Pending w a → s'.Pending w a)) :
    s'.Inv := by
  refine ⟨hwf, fun w a => ?_⟩
  by_cases h : workspaceId = w ∧ agentId = a
  · obtain ⟨rfl, rfl⟩ := h
    exact hself
  · obtain ⟨hentry, hlast, htouched, hpending⟩ := hothers w a h
    exact (hs.settled w a).frame hentry hlast htouched hpending

/-- A step that changes neither entries nor events and takes nothing off what is pending. -/
lemma Inv.frame {s' : Tracker} (hs : s.Inv) (hwf : s'.WellFormed)
    (hentry : ∀ w a, s'.entryFor? w a = s.entryFor? w a) (hstarted : s'.started = s.started)
    (htouched : s'.touched = s.touched) (hpending : ∀ w a, s.Pending w a → s'.Pending w a) :
    s'.Inv :=
  ⟨hwf, fun w a => (hs.settled w a).frame (hentry w a) (by rw [hstarted])
    (fun h => htouched ▸ h) (hpending w a)⟩

lemma Inv.ws (hs : s.Inv) (workspaceId : WorkspaceId) : (s.ws workspaceId).2.Inv := by
  obtain ⟨hwf, -, hentry, -, -, hsweeps, htouched⟩ := ws_spec hs.wellFormed workspaceId
  refine hs.frame hwf hentry (ws_started hs.wellFormed workspaceId) htouched ?_
  intro w a hp
  unfold Pending
  rw [hsweeps]
  exact hp

lemma Inv.heartbeat (hs : s.Inv) (ttlMs : ℤ) (workspaceId : WorkspaceId) (agentId : AgentId)
    (agentName : Option String) (now now' : ℤ) :
    (s.heartbeat ttlMs workspaceId agentId agentName now now').Inv := by
  have hws := hs.ws workspaceId
  obtain ⟨hwf, ⟨slot, hmem, hid, hmap⟩, -⟩ := ws_spec hs.wellFormed workspaceId
  unfold Tracker.heartbeat
  simp only [← hmap]
  generalize (s.ws workspaceId).2 = t at hws hwf hmem
  generalize orText (agentName.map trim) _ = name
  subst hid
  have hentry : ∀ w a, (t.modifyMap slot.map (setEntry agentId ⟨now', name⟩)).entryFor? w a =
      if slot.workspaceId = w ∧ agentId = a then some ⟨now', name⟩ else t.entryFor? w a := by
    intro w a
    rw [hwf.entryFor?_modifyMap hmem, lookup_setEntry]
    by_cases hw : slot.workspaceId = w
    · subst hw
      rw [hwf.entryFor?_slot hmem]
      by_cases ha : agentId = a
      · simp [ha]
      · simp [ha, Ne.symm ha]
    · simp [hw, Ne.symm hw]
  have htouched : ∀ w a, ¬ (slot.workspaceId = w ∧ agentId = a) →
      (w, a) ∈ (slot.workspaceId, agentId) :: t.touched → (w, a) ∈ t.touched := by
    intro w a hne hmem
    obtain heq | hmem := List.mem_cons.mp hmem
    · exact absurd ⟨(Prod.ext_iff.mp heq).1.symm, (Prod.ext_iff.mp heq).2.symm⟩ hne
    · exact hmem
  split_ifs with hoff
  · refine hws.update slot.workspaceId agentId ((hwf.modifyMap _ _).congr rfl rfl) (settled_active ?_ ?_) fun w a hne =>
      ⟨?_, ?_, htouched w a hne, id⟩
    · exact (hentry _ _).trans (if_pos ⟨rfl, rfl⟩) ▸ rfl
    · rw [started_broadcast, lastStatus_cons, if_pos ⟨rfl, rfl⟩]
    · exact (hentry w a).trans (if_neg hne)
    · rw [started_broadcast, lastStatus_cons, if_neg hne]
      rfl
  · -- A heartbeat in time finds an entry, whose agent is already announced.
    refine hws.update slot.workspaceId agentId ((hwf.modifyMap _ _).congr rfl rfl) (settled_active ?_ ?_) fun w a hne =>
      ⟨?_, rfl, htouched w a hne, id⟩
    · exact (hentry _ _).trans (if_pos ⟨rfl, rfl⟩) ▸ rfl
    · refine (hws.settled slot.workspaceId agentId).1 ?_
      rw [hwf.entryFor?_slot hmem]
      cases hprev : (t.contents slot.map).lookup agentId with
      | none => simp [hprev] at hoff
      | some _ => rfl
    · exact (hentry w a).trans (if_neg hne)

lemma Inv.disconnect (hs : s.Inv) (workspaceId : WorkspaceId) (agentId : AgentId)
    (agentName : Option String) : (s.disconnect workspaceId agentId agentName).Inv := by
  have hws := hs.ws workspaceId
  obtain ⟨hwf, ⟨slot, hmem, hid, hmap⟩, -⟩ := ws_spec hs.wellFormed workspaceId
  unfold Tracker.disconnect
  simp only [← hmap]
  generalize (s.ws workspaceId).2 = t at hws hwf hmem
  subst hid
  cases hprev : (t.contents slot.map).lookup agentId with
  | none => exact hws
  | some prev =>
    simp only
    generalize orText (agentName.map trim) _ = name
    have hentry : ∀ w a, (t.modifyMap slot.map fun entries =>
        entries.filter fun entry => entry.1 != agentId).entryFor? w a =
        if slot.workspaceId = w ∧ agentId = a then none else t.entryFor? w a := by
      intro w a
      rw [hwf.entryFor?_modifyMap hmem, lookup_filter fun id => id != agentId]
      by_cases hw : slot.workspaceId = w
      · subst hw
        rw [hwf.entryFor?_slot hmem]
        by_cases ha : agentId = a
        · simp [ha]
        · simp [ha, Ne.symm ha]
      · simp [hw, Ne.symm hw]
    refine hws.update slot.workspaceId agentId ((hwf.modifyMap _ _).congr rfl rfl) (settled_offline ?_ (.inl ?_)) fun w a hne =>
      ⟨?_, ?_, id, id⟩
    · exact (hentry _ _).trans (if_pos ⟨rfl, rfl⟩)
    · rw [started_broadcast, lastStatus_cons, if_pos ⟨rfl, rfl⟩]
    · exact (hentry w a).trans (if_neg hne)
    · rw [started_broadcast, lastStatus_cons, if_neg hne]
      rfl

/-! ### Sweeps -/

/-- What is pending stays so when a sweep with nobody left to announce moves on. -/
lemma Pending.setSweep {k : ℕ} (hk : ∀ sweep, s.sweeps[k]? = some (some sweep) → sweep.stale = [])
    (next : Option Sweep) {w : WorkspaceId} {agentId : AgentId} (h : s.Pending w agentId) :
    (s.setSweep k next).Pending w agentId := by
  obtain ⟨k', sweep, hsweep, hw, name, hname⟩ := h
  have hne : k ≠ k' := by
    rintro rfl
    rw [hk sweep hsweep] at hname
    exact List.not_mem_nil hname
  refine ⟨k', sweep, ?_, hw, name, hname⟩
  simpa [Tracker.setSweep, List.getElem?_set_ne hne] using hsweep

lemma nextStale_cases {ttlMs now : ℤ} {next : ℕ} {found : Slot × List (AgentId × String)}
    (h : s.nextStale ttlMs now next = some found) :
    found.1 ∈ s.workspaces ∧ found.2 ≠ [] := by
  obtain ⟨slot, hmem, hfound⟩ := List.exists_of_findSome?_eq_some h
  simp only at hfound
  split_ifs at hfound with hempty
  obtain rfl := Option.some.inj hfound
  exact ⟨(List.mem_filter.mp hmem).1, fun h => hempty (List.isEmpty_iff.mpr h)⟩

/-- The stale agents of a workspace go together; the first is announced, and the others are
pending from then on. -/
lemma Inv.walk (hs : s.Inv) (ttlMs : ℤ) {k : ℕ} (hlt : k < s.sweeps.length)
    (hk : ∀ sweep, s.sweeps[k]? = some (some sweep) → sweep.stale = []) (now : ℤ) (next : ℕ) :
    (s.walk ttlMs k now next).Inv := by
  unfold Tracker.walk
  cases hnext : s.nextStale ttlMs now next with
  | none => exact hs.frame (hs.1.congr rfl rfl) (fun _ _ => rfl) rfl rfl fun w a => .setSweep hk none
  | some found =>
    obtain ⟨slot, stale⟩ := found
    obtain ⟨hmem, hstale⟩ := nextStale_cases hnext
    simp only at hmem hstale ⊢
    cases stale with
    | nil => exact absurd rfl hstale
    | cons agent rest =>
      set gone := ((agent :: rest).map Prod.fst) with hgone
      have hentry : ∀ w a, (s.modifyMap slot.map fun entries =>
          entries.filter fun entry => !gone.contains entry.1).entryFor? w a =
          if slot.workspaceId = w ∧ a ∈ gone then none else s.entryFor? w a := by
        intro w a
        rw [hs.wellFormed.entryFor?_modifyMap hmem, lookup_filter fun id => !gone.contains id]
        by_cases hw : slot.workspaceId = w
        · subst hw
          rw [hs.wellFormed.entryFor?_slot hmem]
          by_cases ha : a ∈ gone
          · simp [ha]
          · simp [ha]
        · simp [hw, Ne.symm hw]
      refine ⟨(hs.1.modifyMap _ _).congr rfl rfl, fun w a => ?_⟩
      have hlast : ∀ s' : Tracker, s'.started = ⟨slot.workspaceId, .offline, agent.1, agent.2⟩ ::
          s.started → lastStatus s'.started w a =
          if slot.workspaceId = w ∧ agent.1 = a then some .offline
          else lastStatus s.started w a := by
        intro s' hs'
        rw [hs', lastStatus_cons]
      have hstarted := started_broadcast (s := (s.modifyMap slot.map fun entries =>
          entries.filter fun entry => !gone.contains entry.1).setSweep k
            (some ⟨now, slot.number + 1, slot.workspaceId, slot.map, rest, true⟩))
        ⟨slot.workspaceId, .offline, agent.1, agent.2⟩ (some k)
      by_cases hin : slot.workspaceId = w ∧ a ∈ gone
      · refine settled_offline ((hentry w a).trans (if_pos hin)) ?_
        by_cases hfirst : agent.1 = a
        · exact .inl ((hlast _ hstarted).trans (if_pos ⟨hin.1, hfirst⟩))
        · right
          obtain ⟨⟨id, name⟩, hpair, rfl⟩ := List.mem_map.mp hin.2
          obtain rfl | hrest := List.mem_cons.mp hpair
          · exact absurd rfl hfirst
          · refine ⟨k, ⟨now, slot.number + 1, slot.workspaceId, slot.map, rest, true⟩, ?_, hin.1,
              name, hrest⟩
            simp [announce, broadcast, Tracker.setSweep, Tracker.modifyMap, hlt]
      · refine (hs.settled w a).frame ((hentry w a).trans (if_neg hin)) ?_ id fun h => ?_
        · refine (hlast _ hstarted).trans (if_neg fun h => hin ⟨h.1, ?_⟩)
          rw [hgone, ← h.2]
          exact List.mem_cons_self
        · exact Pending.setSweep hk _ h

lemma Inv.announce (hs : s.Inv) {k : ℕ} {sweep : Sweep} {agent : AgentId × String}
    {rest : List (AgentId × String)} (hk : s.sweeps[k]? = some (some sweep))
    (hstale : sweep.stale = agent :: rest)
    (hspared : s.entryFor? sweep.workspaceId agent.1 = none) :
    (s.announce k sweep agent rest).Inv := by
  refine hs.update sweep.workspaceId agent.1 (hs.1.congr rfl rfl) (settled_offline hspared (.inl ?_)) fun w a hne =>
    ⟨rfl, ?_, id, fun h => ?_⟩
  · rw [Tracker.announce, started_broadcast, lastStatus_cons, if_pos ⟨rfl, rfl⟩]
  · rw [Tracker.announce, started_broadcast, lastStatus_cons, if_neg hne]
    rfl
  · obtain ⟨k', sweep', hsweep, hw, name, hname⟩ := h
    by_cases hkk : k = k'
    · subst hkk
      obtain rfl : sweep = sweep' := by simpa [hk] using hsweep
      have hlt : k < s.sweeps.length := (List.getElem?_eq_some_iff.mp hk).1
      refine ⟨k, { sweep with stale := rest, awaiting := true }, ?_, hw, name, ?_⟩
      · simp [Tracker.announce, broadcast, Tracker.setSweep, hlt]
      · rw [hstale] at hname
        obtain heq | hrest := List.mem_cons.mp hname
        · exact absurd ⟨hw, heq ▸ rfl⟩ hne
        · exact hrest
    · refine ⟨k', sweep', ?_, hw, name, hname⟩
      simpa [Tracker.announce, broadcast, Tracker.setSweep, List.getElem?_set_ne hkk] using hsweep

lemma Inv.goOn (hs : s.Inv) (ttlMs : ℤ) {k : ℕ} {sweep : Sweep}
    (hk : s.sweeps[k]? = some (some sweep)) (hspares : Spares s (.goOn k)) :
    (s.goOn ttlMs k sweep).Inv := by
  obtain ⟨now, next, w, map, stale, awaiting⟩ := sweep
  have hlt : k < s.sweeps.length := (List.getElem?_eq_some_iff.mp hk).1
  simp only [Spares, hk] at hspares
  unfold Tracker.goOn
  cases stale with
  | cons agent rest => exact hs.announce hk rfl hspares
  | nil =>
    simp only at hspares ⊢
    have hnobody : ∀ sweep, s.sweeps[k]? = some (some sweep) → sweep.stale = [] := by
      intro sweep hsweep
      obtain rfl := Option.some.inj (Option.some.inj (hk.symm.trans hsweep))
      rfl
    split_ifs with hempty
    · -- The dropped map holds nobody, so no entry is lost.
      have hdrop : (s.drop w).Inv := by
        refine hs.frame (hs.1.drop w) (fun w' a => ?_) rfl rfl fun _ _ => id
        rw [entryFor?_drop]
        split_ifs with hw
        · rw [hw, hspares (List.isEmpty_iff.mp hempty) a]
        · rfl
      exact hdrop.walk ttlMs hlt hnobody now next
    · exact hs.walk ttlMs hlt hnobody now next

lemma Inv.sweep (hs : s.Inv) (ttlMs now : ℤ) : (s.sweep ttlMs now).Inv := by
  have happend : ({ s with sweeps := s.sweeps ++ [none] } : Tracker).Inv := by
    refine hs.frame (hs.1.congr rfl rfl) (fun _ _ => rfl) rfl rfl fun w a h => ?_
    obtain ⟨k, sweep, hsweep, rest⟩ := h
    have hlt : k < s.sweeps.length := (List.getElem?_eq_some_iff.mp hsweep).1
    exact ⟨k, sweep, by simpa [List.getElem?_append_left hlt] using hsweep, rest⟩
  refine happend.walk ttlMs (by simp) (fun sweep hsweep => ?_) now 0
  simp at hsweep

lemma Inv.publish (hs : s.Inv) {b : Broadcast} {rest : List Broadcast}
    (hb : s.broadcasts = b :: rest) : (s.publish b rest).Inv := by
  have hstarted : (s.publish b rest).started = s.started := by
    cases hsweep : b.sweep <;> simp [Tracker.publish, wake, hsweep, started, hb]
  cases hsweep : b.sweep with
  | none =>
    rw [Tracker.publish, hsweep] at hstarted ⊢
    exact hs.frame (hs.1.congr rfl rfl) (fun _ _ => rfl) hstarted rfl fun _ _ => id
  | some k =>
    rw [Tracker.publish, hsweep] at hstarted ⊢
    refine hs.frame (hs.1.congr rfl rfl) (fun _ _ => rfl) hstarted rfl fun w a h => ?_
    obtain ⟨k', sweep, hk', hw, hname⟩ := h
    by_cases hkk : k = k'
    · subst hkk
      exact ⟨k, { sweep with awaiting := false }, by simp [wake, hk'], hw, hname⟩
    · exact ⟨k', sweep, by simpa [wake, List.getElem?_modify, hkk] using hk', hw, hname⟩

lemma Inv.act (hs : s.Inv) {ttlMs : ℤ} {a : Action} {s' : Tracker} (hspares : Spares s a)
    (h : s.act ttlMs a = some s') : s'.Inv := by
  cases a with
  | heartbeat w agentId agentName now now' =>
    obtain rfl := Option.some.inj h
    exact hs.heartbeat ttlMs w agentId agentName now now'
  | disconnect w agentId agentName =>
    obtain rfl := Option.some.inj h
    exact hs.disconnect w agentId agentName
  | getOnline w =>
    obtain rfl := Option.some.inj h
    exact hs.ws w
  | sweep now =>
    obtain rfl := Option.some.inj h
    exact hs.sweep ttlMs now
  | publish =>
    unfold Tracker.act at h
    cases hb : s.broadcasts with
    | nil => simp [hb] at h
    | cons b rest =>
      simp only [hb, Option.some.injEq] at h
      exact h ▸ hs.publish hb
  | goOn k =>
    unfold Tracker.act at h
    cases hk : s.sweeps[k]? with
    | none => simp [hk] at h
    | some inner =>
      cases inner with
      | none => simp [hk] at h
      | some sweep =>
        simp only [hk] at h
        split_ifs at h
        exact Option.some.inj h ▸ hs.goOn ttlMs hk hspares

lemma inv_fresh : fresh.Inv := by
  refine ⟨⟨List.nodup_nil, ?_, ?_⟩, fun w a => ⟨fun h => ?_, fun h => ?_⟩⟩
  · simp [fresh]
  · simp [fresh]
  · simp [fresh, entryFor?, slot?] at h
  · simp [fresh] at h

lemma inv_reachable {ttlMs : ℤ} (h : Reachable ttlMs Spares s) : s.Inv := by
  induction h with
  | refl => exact inv_fresh
  | tail _ hstep ih =>
    obtain ⟨a, hspares, hact⟩ := hstep
    exact ih.act hspares hact

/-! ## Agreement -/

/-- **Events agree with presence in a run that spares.**  Whenever no call is in flight, an agent
with an entry was last announced active, and one that has lost its entry was last announced
offline. -/
theorem events_agree_with_presence (ttlMs : ℤ) {s : Tracker} (h : Reachable ttlMs Spares s)
    (hquiet : s.Quiet) : s.Agrees := by
  have hinv := inv_reachable h
  obtain ⟨hb, hsweeps⟩ := hquiet
  have hstarted : s.started = s.published := by simp [started, hb]
  intro w agentId
  obtain ⟨hactive, hoffline⟩ := hinv.settled w agentId
  rw [hstarted] at hactive hoffline
  refine ⟨hactive, fun htouched hnone => ?_⟩
  obtain hlast | ⟨k, sweep, hk, -⟩ := hoffline htouched hnone
  · exact hlast
  · exact absurd hk (hsweeps k sweep)

/-! ## Concrete runs -/

lemma forall_lookup_eq_none (entries : List (AgentId × PresenceEntry)) :
    (∀ agentId, entries.lookup agentId = none) ↔ entries.isEmpty = true := by
  cases entries with
  | nil => simp
  | cons head rest =>
    constructor
    · intro h
      simpa using h head.1
    · intro h
      simp at h

instance (s : Tracker) (a : Action) : Decidable (Spares s a) :=
  match a with
  | .goOn k =>
    match h : s.sweeps[k]? with
    | some (some ⟨_, _, workspaceId, _, agent :: _, _⟩) =>
      decidable_of_iff ((s.entryFor? workspaceId agent.1).isNone = true) (by simp [Spares, h])
    | some (some ⟨_, _, workspaceId, map, [], _⟩) =>
      decidable_of_iff ((s.contents map).isEmpty = true →
        (s.slot? workspaceId).all (fun slot => (s.contents slot.map).isEmpty) = true) (by
          cases hslot : s.slot? workspaceId with
          | none => simp [Spares, h, entryFor?, hslot]
          | some slot =>
            simp only [Spares, h, entryFor?, hslot, Option.all_some, Option.bind_some,
              forall_lookup_eq_none, List.isEmpty_iff])
    | some none => .isTrue (by simp [Spares, h])
    | none => .isTrue (by simp [Spares, h])
  | .heartbeat .. => .isTrue trivial
  | .disconnect .. => .isTrue trivial
  | .getOnline .. => .isTrue trivial
  | .sweep .. => .isTrue trivial
  | .publish => .isTrue trivial

/-- The actions one after the other, each of them permitted. -/
def play (ttlMs : ℤ) (permits : Tracker → Action → Prop) [∀ s a, Decidable (permits s a)]
    (s : Tracker) : List Action → Option Tracker
  | [] => some s
  | a :: rest =>
    if permits s a then (s.act ttlMs a).bind fun s => play ttlMs permits s rest else none

lemma reachable_play {ttlMs : ℤ} {permits : Tracker → Action → Prop}
    [∀ s a, Decidable (permits s a)] {s s' : Tracker} (hs : Reachable ttlMs permits s)
    (actions : List Action) (h : s.play ttlMs permits actions = some s') :
    Reachable ttlMs permits s' := by
  induction actions generalizing s with
  | nil =>
    obtain rfl := Option.some.inj h
    exact hs
  | cons a rest ih =>
    unfold play at h
    split_ifs at h with hpermits
    obtain ⟨t, hact, hplay⟩ := Option.bind_eq_some_iff.mp h
    exact ih (hs.tail ⟨a, hpermits, hact⟩) hplay

lemma quiet_of {s : Tracker} (hb : s.broadcasts.length = 0)
    (hsweeps : (s.sweeps.all fun sweep => sweep.isNone) = true) : s.Quiet := by
  refine ⟨List.length_eq_zero_iff.mp hb, fun k sweep hk => ?_⟩
  have := List.all_eq_true.mp hsweeps _ (List.mem_of_getElem? hk)
  simp at this

/-- Two agents time out and are swept, and `b` comes back afterwards. -/
theorem events_agree_with_presence_swept :
    ∃ s, Reachable 10 Spares s ∧ s.Agrees ∧ (s.entryFor? "w" "a").isSome = false ∧
      (s.entryFor? "w" "b").isSome = true ∧ s.published.length = 5 := by
  let run : List Action :=
    [.heartbeat "w" "a" none 0 0, .heartbeat "w" "b" none 0 0, .publish, .publish, .sweep 100,
      .publish, .goOn 0, .publish, .goOn 0, .heartbeat "w" "b" none 100 100, .publish]
  have hplay : (fresh.play 10 Spares run).map (fun s => (s.broadcasts.length,
      s.sweeps.all fun sweep => sweep.isNone, (s.entryFor? "w" "a").isSome,
      (s.entryFor? "w" "b").isSome, s.published.length)) = some (0, true, false, true, 5) := by
    decide +kernel
  obtain ⟨s, hs, hfacts⟩ := Option.map_eq_some_iff.mp hplay
  simp only [Prod.mk.injEq] at hfacts
  obtain ⟨hb, hsweeps, ha, hentry, hpublished⟩ := hfacts
  have h := reachable_play .refl run hs
  exact ⟨s, h, events_agree_with_presence 10 h (quiet_of hb hsweeps), ha, hentry, hpublished⟩

/-- Two agents time out, and `b` comes back while the sweep announces `a`: the sweep announces `b`
offline all the same. -/
theorem sweep_contradicts_heartbeat :
    ¬ ∀ (ttlMs : ℤ) (s : Tracker), Reachable ttlMs (fun _ _ => True) s → s.Quiet → s.Agrees := by
  intro h
  let run : List Action :=
    [.heartbeat "w" "a" none 0 0, .heartbeat "w" "b" none 0 0, .publish, .publish, .sweep 100,
      .heartbeat "w" "b" none 100 100, .publish, .publish, .goOn 0, .publish, .goOn 0]
  have hplay : (fresh.play 10 (fun _ _ => True) run).map (fun s => (s.broadcasts.length,
      s.sweeps.all fun sweep => sweep.isNone, (s.entryFor? "w" "b").isSome,
      lastStatus s.published "w" "b")) = some (0, true, true, some .offline) := by
    decide +kernel
  obtain ⟨s, hs, hfacts⟩ := Option.map_eq_some_iff.mp hplay
  simp only [Prod.mk.injEq] at hfacts
  obtain ⟨hb, hsweeps, hentry, hlast⟩ := hfacts
  have hagrees := h 10 s (reachable_play .refl run hs) (quiet_of hb hsweeps)
  have hactive := (hagrees "w" "b").1 hentry
  simp [hlast] at hactive

end Tracker

end Presence
