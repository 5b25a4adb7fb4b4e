import Mathlib.Tactic.NormNum
import Relaycast.Routing.Service

/-!
# When the circuit breaker holds

What is recorded of an agent is a list of outcomes, latest first: each outcome is the write of one
call.  `breaker_of_undisturbed` compares the stored row, and the agents that `routeBySkill`
returns, with that list, in runs that meet two conditions.

A failure must find the counter at its write as it was when it read it.  And where `routeBySkill`
takes its time while the circuit of a candidate is open, the time it has read for that circuit must
be later too.  What it has read is the `unixepoch` of seconds, which is null for every time since
March 1970: then no circuit is ever open to it.
-/

namespace Routing

open Relational Interleaving Script

/-! ## What is recorded -/

/-- The outcome a call records. -/
inductive Outcome
  | success
  | failure (at' : Instant)
  deriving DecidableEq

/-- The outcome a statement records of an agent. -/
def Stmt.outcome? (k : FailuresKey) : Stmt → Option Outcome
  | .upsertSuccess k' _ => if k' = k then some .success else none
  | .upsertFailure f => if f.of = k then some (.failure f.now) else none
  | _ => none

/-- What was recorded of an agent, latest first. -/
def outcomes (k : FailuresKey) (trace : List (Event lang Store)) : List Outcome :=
  trace.filterMap fun e => e.stmt.outcome? k

/-- The failures since the last success. -/
def failuresSince : List Outcome → ℕ
  | [] | .success :: _ => 0
  | .failure _ :: os => failuresSince os + 1

/-- The last failure, if no success came after it. -/
def lastFailure : List Outcome → Option Instant
  | [] | .success :: _ => none
  | .failure at' :: _ => some at'

/-- Is it an outcome of failure? -/
def Outcome.isFailure : Outcome → Bool
  | .success => false
  | .failure _ => true

/-- Going by the outcomes, the agent is to be left alone: the failures since the last success have
reached the threshold, and it is before the end of the cooldown, less a second. -/
def CoolingDown (config : RoutingConfig) (os : List Outcome) (now : Instant) : Prop :=
  config.circuitBreakerThreshold ≤ failuresSince os ∧ ∃ at', lastFailure os = some at' ∧
    now < at' + (config.circuitBreakerCooldownSeconds - 1) * 1000

/-! ## What is stored -/

namespace Store

variable (s : Store) (k : FailuresKey)

def consecutiveFailures : ℕ := ((s.failures? k).map (·.consecutiveFailures)).getD 0
def totalFailures : ℕ := ((s.failures? k).map (·.totalFailures)).getD 0
def totalSuccesses : ℕ := ((s.failures? k).map (·.totalSuccesses)).getD 0
def openUntil : Option ℤ := (s.failures? k).bind (·.circuitOpenUntil)

end Store

/-! ## Undisturbed runs -/

/-- Did the statement read the failures of the agent? -/
def Stmt.findsFailures (k : FailuresKey) : Stmt → Bool
  | .findFailures k' => k' == k
  | _ => false

/-- Did the statement read the candidates of the workspace? -/
def Stmt.findsCandidates (workspaceId : WorkspaceId) : Stmt → Bool
  | .findCandidates workspaceId' => workspaceId' == workspaceId
  | _ => false

/-- The counter is as call `i` has read it. -/
def counterKept (k : FailuresKey) (w : World lang Store) (i : ℕ) : Bool :=
  (w.eventsOf i).all fun e =>
    !e.stmt.findsFailures k || e.before.consecutiveFailures k == w.store.consecutiveFailures k

/-- If the circuit of the agent is open, and call `i` has read the agent among the candidates, then
the time it has read for the circuit is later as well. -/
def readAsOpen (k : FailuresKey) (w : World lang Store) (i : ℕ) : Bool :=
  (w.store.openUntil k).all (fun openUntil => decide (openUntil ≤ epochSeconds w.store.clock)) ||
    (w.eventsOf i).all fun e =>
      !e.stmt.findsCandidates k.workspaceId ||
        !(e.before.candidates k.workspaceId).any (·.agentId == k.agentId) ||
          ((e.before.openUntil k).bind unixepoch).any fun openUntil =>
            decide (epochSeconds w.store.clock < openUntil)

/-- Every failure finds the counter as it was read, and every open circuit was read as open. -/
def undisturbed (k : FailuresKey) (w : World lang Store) (i : ℕ) : Stmt → Bool
  | .upsertFailure f => f.of != k || counterKept k w i
  | .newDate => readAsOpen k w i
  | _ => true

/-- The undisturbed runs. -/
def Undisturbed (k : FailuresKey) : Regime lang Store Call where
  calls _ := True
  permits w i q := undisturbed k w i q = true
  crashes := True

/-! ## One statement -/

section Upsert

variable {T : Table RoutingFailures} {r : RoutingFailures}
  {set : RoutingFailures → RoutingFailures} {hset : ∀ r, (set r).of = r.of} {k : FailuresKey}

/-- What an upsert leaves of the row of an agent. -/
lemma find?_upsert : (upsert T r set hset).rows.find? (·.of == k) =
    if r.of = k then some (((T.rows.find? (·.of == k)).map set).getD r)
    else T.rows.find? (·.of == k) := by
  unfold upsert
  split_ifs with hconflict hk hk
  · -- No row has the key, so the new one is found.
    have hnone : T.rows.find? (·.of == k) = none := by
      rw [List.find?_eq_none]
      intro s hs
      have hs' := List.any_eq_false.mp hconflict s hs
      rw [← hk]
      exact hs'
    show (T.rows ++ [r]).find? (·.of == k) = _
    rw [List.find?_append, hnone]
    simp [hk]
  · show (T.rows ++ [r]).find? (·.of == k) = _
    rw [List.find?_append]
    simp [hk]
  · rw [Table.find?_update hset fun r => by rw [hset]]
    have hsome : (T.rows.find? (·.of == k)).isSome = true := by
      rw [List.find?_isSome]
      obtain ⟨s, hs, hclash⟩ := List.any_eq_true.mp ((Bool.not_eq_false _).mp hconflict)
      exact ⟨s, hs, by rw [← hk]; exact hclash⟩
    obtain ⟨s, hs⟩ := Option.isSome_iff_exists.mp hsome
    have hof : s.of = k := by simpa using List.find?_some hs
    simp [hs, hof, hk]
  · rw [Table.find?_update hset fun r => by rw [hset]]
    cases hfind : T.rows.find? (·.of == k) with
    | none => rfl
    | some s =>
      have hof : s.of = k := by simpa using List.find?_some hfind
      have hne : ¬ k = r.of := fun h => hk h.symm
      simp [hof, hne]

end Upsert

/-! ## What every statement keeps -/

/-- The row of the agent says what was recorded. -/
structure Recorded (k : FailuresKey) (w : World lang Store) : Prop where
  directory : ∀ d ∈ w.store.directory, ∀ a ∈ w.store.agents, d.sourceAgentId = some a.id →
    a.workspaceId = d.workspaceId
  consecutive : w.store.consecutiveFailures k = failuresSince (outcomes k w.trace)
  failures : w.store.totalFailures k = (outcomes k w.trace).countP (·.isFailure)
  successes : w.store.totalSuccesses k = (outcomes k w.trace).countP (!·.isFailure)
  openUntil : ∀ at', lastFailure (outcomes k w.trace) = some at' → w.store.openUntil k =
    (circuitOpenUntil (w.store.config k.workspaceId) (failuresSince (outcomes k w.trace)) at').map
      epochSeconds

/-- Agents, directory and configuration stay, a row of failures stays, and the trace grows. -/
structure Grows (k : FailuresKey) (w w' : World lang Store) : Prop where
  agents : w'.store.agents = w.store.agents
  directory : w'.store.directory = w.store.directory
  configs : w'.store.routingConfigs = w.store.routingConfigs
  row : (w.store.failures? k).isSome = true → (w'.store.failures? k).isSome = true
  trace : ∃ newer, w'.trace = newer ++ w.trace

lemma Grows.config {k : FailuresKey} {w w' : World lang Store} (h : Grows k w w')
    (workspaceId : WorkspaceId) : w'.store.config workspaceId = w.store.config workspaceId := by
  unfold Store.config
  rw [h.configs]

/-- What calls share: the record of the agent. -/
def shared (k : FailuresKey) : Shared lang Store where
  inv := Recorded k
  grows := Grows k
  refl _ := ⟨rfl, rfl, rfl, id, [], rfl⟩
  trans _ _ _ h h' := by
    obtain ⟨newer, htrace⟩ := h.trace
    obtain ⟨newer', htrace'⟩ := h'.trace
    refine ⟨h'.agents.trans h.agents, h'.directory.trans h.directory,
      h'.configs.trans h.configs, fun hrow => h'.row (h.row hrow), newer' ++ newer, ?_⟩
    rw [htrace', htrace, List.append_assoc]

/-- Nothing is recorded at first. -/
lemma recorded_fresh {k : FailuresKey} {s : Store} (h : Fresh k s) : Recorded k ⟨s, []⟩ := by
  refine ⟨h.directory, ?_, ?_, ?_, fun at' hlast => ?_⟩
  · rw [Store.consecutiveFailures, h.failures]
    rfl
  · rw [Store.totalFailures, h.failures]
    rfl
  · rw [Store.totalSuccesses, h.failures]
    rfl
  · simp [outcomes, lastFailure] at hlast

section Statements

variable {k : FailuresKey} {w : World lang Store} {i : ℕ} {q : Stmt} {f : FailureWrite}

/-- The row of the agent after an upsert. -/
lemma failures?_upsert (s : Store) (r : RoutingFailures) (set : RoutingFailures → RoutingFailures)
    (hset : ∀ r, (set r).of = r.of) :
    Store.failures? { s with routingFailures := upsert s.routingFailures r set hset } k =
      if r.of = k then some (((s.failures? k).map set).getD r) else s.failures? k := find?_upsert

lemma grows_after (a : q.Answer) : Grows k w (w.after machine i q a) := by
  have hrow : ∀ (r : RoutingFailures) (set : RoutingFailures → RoutingFailures)
      (hset : ∀ r, (set r).of = r.of), (w.store.failures? k).isSome = true →
        (Store.failures? { w.store with
          routingFailures := upsert w.store.routingFailures r set hset } k).isSome = true := by
    intro r set hset hsome
    rw [failures?_upsert]
    split_ifs
    · rfl
    · exact hsome
  cases q with
  | upsertSuccess k' now => exact ⟨rfl, rfl, rfl, hrow _ _ _, [_], rfl⟩
  | upsertFailure f => exact ⟨rfl, rfl, rfl, hrow _ _ _, [_], rfl⟩
  | _ => exact ⟨rfl, rfl, rfl, id, [_], rfl⟩

/-- A statement that records nothing of the agent and leaves its row. -/
lemma Recorded.of_same (h : Recorded k w) (a : q.Answer) (hq : q.outcome? k = none)
    (hrow : (w.after machine i q a).store.failures? k = w.store.failures? k) :
    Recorded k (w.after machine i q a) := by
  have houtcomes : outcomes k (w.after machine i q a).trace = outcomes k w.trace :=
    List.filterMap_cons_none hq
  have hgrows : Grows k w (w.after machine i q a) := grows_after a
  refine ⟨?_, ?_, ?_, ?_, ?_⟩
  · rw [hgrows.directory, hgrows.agents]
    exact h.directory
  · rw [houtcomes, ← h.consecutive, Store.consecutiveFailures, hrow, Store.consecutiveFailures]
  · rw [houtcomes, ← h.failures, Store.totalFailures, hrow, Store.totalFailures]
  · rw [houtcomes, ← h.successes, Store.totalSuccesses, hrow, Store.totalSuccesses]
  · rw [houtcomes, hgrows.config, Store.openUntil, hrow]
    exact h.openUntil

/-- A success starts the counter anew. -/
lemma Recorded.success (h : Recorded k w) {k' : FailuresKey} {now : Instant} :
    Recorded k (w.after machine i (.upsertSuccess k' now) ()) := by
  by_cases hk : k' = k
  · subst hk
    have hrow : (w.after machine i (.upsertSuccess k' now) ()).store.failures? k' =
        some (((w.store.failures? k').map (setSuccess now)).getD (insertedSuccess k' now)) :=
      (failures?_upsert _ _ _ _).trans (if_pos rfl)
    have houtcomes : outcomes k' (w.after machine i (.upsertSuccess k' now) ()).trace =
        .success :: outcomes k' w.trace := List.filterMap_cons_some (if_pos rfl)
    have hfailures := h.failures
    have hsuccesses := h.successes
    unfold Store.totalFailures at hfailures
    unfold Store.totalSuccesses at hsuccesses
    refine ⟨h.directory, ?_, ?_, ?_, ?_⟩
    · rw [Store.consecutiveFailures, hrow, houtcomes]
      cases w.store.failures? k' <;> rfl
    · rw [Store.totalFailures, hrow, houtcomes, List.countP_cons_of_neg (by simp [Outcome.isFailure]),
        ← hfailures]
      cases w.store.failures? k' <;> rfl
    · rw [Store.totalSuccesses, hrow, houtcomes, List.countP_cons_of_pos rfl, ← hsuccesses]
      cases w.store.failures? k' <;> rfl
    · rw [houtcomes]
      intro at' hlast
      simp [lastFailure] at hlast
  · have hother : (Stmt.upsertSuccess k' now).outcome? k = none := if_neg hk
    refine Recorded.of_same h () hother ?_
    exact (failures?_upsert _ _ _ _).trans (if_neg hk)

/-- A failure of another agent. -/
lemma Recorded.failure_other (h : Recorded k w) (hk : f.of ≠ k) :
    Recorded k (w.after machine i (.upsertFailure f) ()) := by
  have hother : (Stmt.upsertFailure f).outcome? k = none := if_neg hk
  refine Recorded.of_same h () hother ?_
  exact (failures?_upsert _ _ _ _).trans (if_neg hk)

/-- A failure that finds the counter as it was read. -/
lemma Recorded.failure (h : Recorded k w) (hk : f.of = k)
    (hnext : f.nextConsecutiveFailures = w.store.consecutiveFailures k + 1)
    (htotals : w.store.failures? k = none → f.existingFailures = 0 ∧ f.existingSuccesses = 0)
    (hopen : f.circuitOpenUntil = circuitOpenUntil (w.store.config k.workspaceId)
      f.nextConsecutiveFailures f.now) :
    Recorded k (w.after machine i (.upsertFailure f) ()) := by
  subst hk
  have hrow : (w.after machine i (.upsertFailure f) ()).store.failures? f.of =
      some (((w.store.failures? f.of).map f.set).getD f.inserted) :=
    (failures?_upsert _ _ _ _).trans (if_pos rfl)
  have houtcomes : outcomes f.of (w.after machine i (.upsertFailure f) ()).trace =
      .failure f.now :: outcomes f.of w.trace := List.filterMap_cons_some (if_pos rfl)
  have hfailures := h.failures
  have hsuccesses := h.successes
  unfold Store.totalFailures at hfailures
  unfold Store.totalSuccesses at hsuccesses
  have hsince : failuresSince (outcomes f.of (w.after machine i (.upsertFailure f) ()).trace) =
      f.nextConsecutiveFailures := by
    rw [houtcomes, hnext, h.consecutive]
    rfl
  refine ⟨h.directory, ?_, ?_, ?_, ?_⟩
  · rw [Store.consecutiveFailures, hrow, hsince]
    cases w.store.failures? f.of <;> rfl
  · rw [Store.totalFailures, hrow, houtcomes, List.countP_cons_of_pos rfl, ← hfailures]
    cases hfind : w.store.failures? f.of with
    | none => simp [FailureWrite.inserted, (htotals hfind).1]
    | some r => rfl
  · rw [Store.totalSuccesses, hrow, houtcomes,
      List.countP_cons_of_neg (by simp [Outcome.isFailure]), ← hsuccesses]
    cases hfind : w.store.failures? f.of with
    | none => simp [FailureWrite.inserted, (htotals hfind).2]
    | some r => rfl
  · intro at' hlast
    rw [hsince, Store.openUntil, hrow]
    rw [houtcomes] at hlast
    obtain rfl : f.now = at' := Option.some.inj hlast
    have hconfig : (w.after machine i (.upsertFailure f) ()).store.config f.of.workspaceId =
        w.store.config f.of.workspaceId := rfl
    rw [hconfig, ← hopen]
    cases w.store.failures? f.of <;> rfl

/-- Does the statement record no failure? -/
def Stmt.recordsNoFailure : Stmt → Bool
  | .upsertFailure _ => false
  | _ => true

/-- Everything but a failure keeps the record. -/
lemma Recorded.after (h : Recorded k w) (hq : q.recordsNoFailure = true) (a : q.Answer) :
    Recorded k (w.after machine i q a) := by
  cases q with
  | upsertSuccess k' now => exact h.success
  | upsertFailure f => simp [Stmt.recordsNoFailure] at hq
  | _ => exact h.of_same a rfl rfl

end Statements

/-! ## The calls -/

section Calls

variable {k : FailuresKey} {i : ℕ} {w : World lang Store} {F : Scoring}

/-- What the statements of `getRoutingConfig` and the other reads keep. -/
lemma shared_after (q : Stmt) (a : q.Answer) (h : Recorded k w) (hq : q.recordsNoFailure = true) :
    (shared k).inv (w.after machine i q a) ∧ (shared k).grows w (w.after machine i q a) :=
  ⟨h.after hq a, grows_after a⟩

lemma recordRoutingSuccess_safe (workspaceId : WorkspaceId) (agentName : String) :
    (shared k).Safe machine (Undisturbed k).permits i (fun _ _ => True)
      (recordRoutingSuccess workspaceId agentName) w := by
  refine Shared.Safe.of_issues (P := fun q : Stmt => q.recordsNoFailure = true) ?_
    (fun w q hq hI _ a => shared_after q a hI hq) w
  refine Prog.issues_ask_bind rfl fun agent => ?_
  cases agent with
  | none => trivial
  | some agentId => exact Prog.issues_ask_bind rfl fun now => Prog.issues_ask_bind rfl fun _ => trivial

/-- The row that is found, and the totals that go with it. -/
lemma recordRoutingFailure_safe (workspaceId : WorkspaceId) (agentName : String)
    (errorMessage : Option String) :
    (shared k).Safe machine (Undisturbed k).permits i (fun _ _ => True)
      (recordRoutingFailure workspaceId agentName errorMessage) w := by
  refine Shared.Safe.ask fun w₀ _ _ hI₀ _ a => ⟨shared_after (.findAgent workspaceId agentName) a hI₀ rfl, fun agent _ => ?_⟩
  cases agent with
  | none => trivial
  | some agentId =>
    refine Shared.Safe.ask fun w₁ _ _ hI₁ _ a => ⟨shared_after (.findConfig workspaceId) a hI₁ rfl, fun row hrow => ?_⟩
    refine Shared.Safe.ask fun w₂ _ hgrows₂ hI₂ _ a => ⟨shared_after .newDate a hI₂ rfl, fun now hnow => ?_⟩
    refine Shared.Safe.ask fun w₃ _ hgrows₃ hI₃ _ a =>
      ⟨shared_after (.findFailures ⟨workspaceId, agentId⟩) a hI₃ rfl, fun existing hexisting => ?_⟩
    refine Shared.Safe.ask fun w₄ hown₄ hgrows₄ hI₄ hpermits a =>
      ⟨⟨?_, grows_after (q := .upsertFailure _) a⟩, fun _ _ => trivial⟩
    · by_cases hk : (⟨workspaceId, agentId⟩ : FailuresKey) = k
      · subst hk
        -- The counter is still what it was when the row was read.
        have hread : (w₃.event machine i (.findFailures ⟨workspaceId, agentId⟩) ()) ∈
            w₄.eventsOf i := by
          rw [hown₄]
          exact World.event_mem_eventsOf _ _ _ _ _
        have hkept : w₃.store.consecutiveFailures ⟨workspaceId, agentId⟩ =
            w₄.store.consecutiveFailures ⟨workspaceId, agentId⟩ := by
          have hall : counterKept ⟨workspaceId, agentId⟩ w₄ i = true := by
            simpa [Undisturbed, undisturbed, failureWrite] using hpermits
          simpa [Stmt.findsFailures] using List.all_eq_true.mp hall _ hread
        subst hexisting hrow
        refine hI₄.failure rfl ?_ (fun hnone => ?_) ?_
        · rw [← hkept]
          rfl
        · have hnone₃ : w₃.store.failures? ⟨workspaceId, agentId⟩ = none := by
            by_contra hsome
            have hstays := hgrows₄.row (Option.isSome_iff_ne_none.mpr hsome)
            rw [hnone] at hstays
            simp at hstays
          have hreply : (machine.run (.findFailures ⟨workspaceId, agentId⟩) () w₃.store).1 = none :=
            hnone₃
          rw [hreply]
          exact ⟨rfl, rfl⟩
        · rw [hgrows₄.config, World.after_store]
          have hconfig₃ : w₃.store.config workspaceId = w₂.store.config workspaceId :=
            hgrows₃.config workspaceId
          have hconfig₂ : w₂.store.config workspaceId = w₁.store.config workspaceId :=
            hgrows₂.config workspaceId
          show circuitOpenUntil _ _ _ = circuitOpenUntil (w₃.store.config workspaceId) _ _
          rw [hconfig₃, hconfig₂]
          rfl
      · exact hI₄.failure_other hk

/-! ### Routing -/

/-- Where a candidate comes from. -/
lemma of_mem_candidates {s : Store} {workspaceId : WorkspaceId} {c : CandidateRow}
    (hc : c ∈ s.candidates workspaceId) : ∃ d ∈ s.directory, ∃ b ∈ s.agents,
      d.sourceAgentId = some b.id ∧ d.workspaceId = workspaceId ∧ c.agentId = b.id ∧
        c.agentName = b.name ∧
          c.circuitOpenUntil = (s.openUntil ⟨workspaceId, b.id⟩).bind unixepoch := by
  obtain ⟨d, hd, hcandidate⟩ := List.mem_filterMap.mp (List.mem_mergeSort.mp hc)
  obtain ⟨b, hb, hsome⟩ := Option.bind_eq_some_iff.mp hcandidate
  have hsource : d.sourceAgentId = some b.id := by simpa using List.find?_some hb
  dsimp only at hsome
  split_ifs at hsome with hwhere
  obtain rfl := Option.some.inj hsome
  refine ⟨d, hd, b, List.mem_of_find?_eq_some hb, hsource, hwhere.1, rfl, rfl, ?_⟩
  exact (Option.bind_assoc _ _ _).symm

/-- The answer names a candidate that looks healthy. -/
lemma of_choose {config : RoutingConfig} {skill message : String} {now : Instant}
    {rows : List CandidateRow} {route : Route}
    (h : choose F config skill message now rows = .ok route) :
    ∃ c ∈ rows, c.agentName = route.agentName ∧ c.isHealthy now = true := by
  unfold choose at h
  cases hbest : best? F config skill message now rows with
  | none => simp [hbest] at h
  | some best =>
    have hmem := List.mem_of_head? hbest
    rw [List.mem_mergeSort] at hmem
    obtain ⟨c, hc, rfl⟩ := List.mem_map.mp (List.mem_filter.mp hmem).1
    obtain ⟨hrow, hhealthy⟩ := List.mem_filter.mp hc
    rw [hbest] at h
    refine ⟨c, hrow, ?_, hhealthy⟩
    exact congrArg Route.agentName (Except.ok.inj h)

/-- A circuit that was opened by the last of enough failures is open for the cooldown, less a
second. -/
lemma not_coolingDown {now : Instant} (h : Recorded k w)
    (hclosed : ∀ openUntil, w.store.openUntil k = some openUntil → openUntil ≤ epochSeconds now) :
    ¬ CoolingDown (w.store.config k.workspaceId) (outcomes k w.trace) now := by
  rintro ⟨hthreshold, at', hlast, hearly⟩
  have hopen := h.openUntil at' hlast
  rw [circuitOpenUntil, if_pos hthreshold, Option.map_some] at hopen
  have hle := hclosed _ hopen
  unfold epochSeconds at hle
  dsimp only [Instant] at hearly
  omega

/-- What a route returns: that it does not name the agent while the agent is to be left alone, at
the statement with which it took its time. -/
def RouteReturned (k : FailuresKey) (i : ℕ) (result : Except CodedError Route)
    (w : World lang Store) : Prop :=
  ∀ route, result = .ok route → ∀ a ∈ w.store.agents, a.id = k.agentId →
    a.workspaceId = k.workspaceId → route.agentName = a.name →
      ∃ w' : World lang Store, w = w'.after machine i .newDate () ∧
        ¬ CoolingDown (w'.store.config k.workspaceId) (outcomes k w'.trace) w'.store.clock

/-- The statements of `routeBySkill`, in their order. -/
lemma routeBySkill_eq (workspaceId : WorkspaceId) (skill message : String) :
    routeBySkill F workspaceId skill message =
      if isBlank skill then .done (.error skillRequired)
      else await (.findConfig workspaceId) >>= fun row : Option RoutingConfigRow =>
        await (.findRanks workspaceId skill message) >>= fun ranks : Ranks =>
          await (.findCandidates workspaceId) >>= fun rows : List CandidateRow =>
            if rows.isEmpty then .done (.error (noActiveAgents skill))
            else await .newDate >>= fun now : Instant =>
              .done (choose F (routingConfig row) skill message now (rows.map (·.ranked ranks))) :=
  rfl

lemma routeBySkill_issues (workspaceId : WorkspaceId) (skill message : String) :
    (routeBySkill F workspaceId skill message).Issues fun q : Stmt => q.recordsNoFailure = true := by
  rw [routeBySkill_eq]
  refine Prog.issues_ite (fun _ => trivial) fun _ => ?_
  refine Prog.issues_ask_bind rfl fun row => Prog.issues_ask_bind rfl fun ranks =>
    Prog.issues_ask_bind rfl fun rows => ?_
  exact Prog.issues_ite (fun _ => trivial) fun _ => Prog.issues_ask_bind rfl fun now => trivial

lemma routeBySkill_safe (skill message : String) :
    (shared k).Safe machine (Undisturbed k).permits i (RouteReturned k i)
      (routeBySkill F k.workspaceId skill message) w := by
  have herror : ∀ (e : CodedError) w, RouteReturned k i (.error e) w := by
    intro e w route hroute
    simp at hroute
  rw [routeBySkill_eq]
  refine Shared.Safe.ite (fun _ => herror _ w) fun _ => ?_
  refine Shared.Safe.ask fun w₀ _ _ hI₀ _ a =>
    ⟨shared_after (.findConfig k.workspaceId) a hI₀ rfl, fun row _ => ?_⟩
  refine Shared.Safe.ask fun w₁ _ _ hI₁ _ a =>
    ⟨shared_after (.findRanks k.workspaceId skill message) a hI₁ rfl, fun ranks _ => ?_⟩
  refine Shared.Safe.ask fun w₂ _ _ hI₂ _ a =>
    ⟨shared_after (.findCandidates k.workspaceId) a hI₂ rfl, fun rows hrows => ?_⟩
  refine Shared.Safe.ite (fun _ => herror _ _) fun _ => ?_
  refine Shared.Safe.ask fun w₃ hown hgrows hI₃ hpermits a =>
    ⟨shared_after .newDate a hI₃ rfl, fun now hnow => ?_⟩
  intro route hroute b hb hid hworkspace hname
  refine ⟨w₃, rfl, not_coolingDown hI₃ fun openUntil hopen => ?_⟩
  by_contra hlate
  -- The agent was among the candidates, with what `unixepoch` made of its circuit.
  obtain ⟨c, hc, hcname, hhealthy⟩ := of_choose hroute
  obtain ⟨c₀, hc₀, rfl⟩ := List.mem_map.mp hc
  rw [hrows] at hc₀
  obtain ⟨d, hd, b', hb', hsource, hwhere, hcid, hcname', hcopen⟩ := of_mem_candidates hc₀
  have hb₂ : b ∈ w₂.store.agents := by
    have hagents : w₃.store.agents = w₂.store.agents := hgrows.agents
    exact hagents ▸ hb
  have hworkspace' : b'.workspaceId = d.workspaceId := hI₂.directory d hd b' hb' hsource
  have hsame : b' = b := by
    refine Table.eq_of_clash hb' hb₂ ?_
    have hnames : b'.name = b.name := hcname'.symm.trans (hcname.trans hname)
    have hworkspaces : b'.workspaceId = b.workspaceId :=
      hworkspace'.trans (hwhere.trans hworkspace.symm)
    simp [Keyed.clash, Keyed.key, hnames, hworkspaces]
  subst hsame
  have hkey : (⟨k.workspaceId, b'.id⟩ : FailuresKey) = k := by rw [hid]
  rw [hkey] at hcopen
  -- What was read was to be later than the clock, and a healthy candidate's is not.
  have hread : (w₂.event machine i (.findCandidates k.workspaceId) ()) ∈ w₃.eventsOf i := by
    rw [hown]
    exact World.event_mem_eventsOf _ _ _ _ _
  have hlisted : (w₂.store.candidates k.workspaceId).any (·.agentId == k.agentId) = true :=
    List.any_eq_true.mpr ⟨c₀, hc₀, by rw [hcid, hid, beq_self_eq_true]⟩
  have hpermits' : readAsOpen k w₃ i = true := hpermits
  rw [readAsOpen, hopen, Option.all_some, decide_eq_false hlate, Bool.false_or] at hpermits'
  have hlater := List.all_eq_true.mp hpermits' _ hread
  simp only [World.event_stmt, World.event_before, Stmt.findsCandidates, beq_self_eq_true,
    hlisted, Bool.not_true, Bool.false_or, ← hcopen] at hlater
  obtain ⟨openUntil', hsome, hopen'⟩ := (Option.any_eq_true _ _).mp hlater
  have hclosed : openUntil' ≤ epochSeconds w₃.store.clock := by
    simpa [CandidateRow.isHealthy, CandidateRow.ranked, hsome, hnow, machine, run] using hhealthy
  have hlt := of_decide_eq_true hopen'
  omega

/-- What a call returns with. -/
def Returned (k : FailuresKey) : (c : Call) → ℕ → Result c → World lang Store → Prop
  | .routeBySkill workspaceId _ _, i, result, w =>
    workspaceId = k.workspaceId → RouteReturned k i result w
  | _, _, _, _ => True

/-- **Every call is safe in an undisturbed run.** -/
lemma body_safe (c : Call) :
    (shared k).Safe machine (Undisturbed k).permits i (Returned k c i) (body F c) w := by
  cases c with
  | recordRoutingSuccess workspaceId agentName =>
    exact recordRoutingSuccess_safe workspaceId agentName
  | recordRoutingFailure workspaceId agentName errorMessage =>
    exact recordRoutingFailure_safe workspaceId agentName errorMessage
  | routeBySkill workspaceId skill message =>
    rw [body]
    by_cases hworkspace : workspaceId = k.workspaceId
    · subst hworkspace
      refine (routeBySkill_safe skill message).weaken ?_
      intro result w hreturned _
      exact hreturned
    · refine (Shared.Safe.of_issues (routeBySkill_issues workspaceId skill message)
        (fun w q hq hI _ a => shared_after q a hI hq) w).weaken ?_
      intro result w _ heq
      exact absurd heq hworkspace

end Calls

/-! ## Every undisturbed run -/

/-- The breaker does what it is for.  The counter is the number of failures recorded since the last
success, and the totals are the numbers of failures and of successes recorded; and a `routeBySkill`
that has returned the agent took its time, with its last statement, when the agent was not to be
left alone by what had been recorded until then. -/
structure BreakerHolds (k : FailuresKey) (g : Config lang Store Result) : Prop where
  consecutive : g.world.store.consecutiveFailures k = failuresSince (outcomes k g.world.trace)
  failures : g.world.store.totalFailures k = (outcomes k g.world.trace).countP (·.isFailure)
  successes : g.world.store.totalSuccesses k = (outcomes k g.world.trace).countP (!·.isFailure)
  routes : ∀ i skill message route, g.threads[i]? =
      some ⟨.routeBySkill k.workspaceId skill message, some (.done (.ok route))⟩ →
    ∀ a ∈ g.world.store.agents, a.id = k.agentId → a.workspaceId = k.workspaceId →
      route.agentName = a.name → ∃ newer older e, g.world.trace = newer ++ e :: older ∧
        e.caller = i ∧ e.stmt = .newDate ∧ (∀ e' ∈ newer, e'.caller ≠ i) ∧
          ¬ CoolingDown (g.world.store.config k.workspaceId) (outcomes k older) e.before.clock

/-- **The breaker holds in every undisturbed run.** -/
theorem breakerHolds_of_undisturbed (F : Scoring) (k : FailuresKey) {g : Config lang Store Result}
    (h : (system F k).Reachable (Undisturbed k) g) : BreakerHolds k g := by
  have hsound := Shared.sound (H := shared k) (S := system F k) (G := Undisturbed k)
    (Q := Returned k) ?_ ?_ ?_ ?_ h
  · obtain ⟨hI, hreturned⟩ := hsound
    refine ⟨hI.consecutive, hI.failures, hI.successes, ?_⟩
    intro i skill message route hi a ha hid hworkspace hname
    obtain ⟨w₀, hown, hgrows, hQ⟩ := hreturned i _ _ hi
    obtain ⟨newer, htrace⟩ := hgrows.trace
    obtain ⟨w', rfl, hnot⟩ := hQ rfl route rfl a (hgrows.agents ▸ ha) hid hworkspace hname
    refine ⟨newer, w'.trace, w'.event machine i .newDate (), htrace, rfl, rfl, ?_, ?_⟩
    · -- Whatever came after it was executed by others.
      intro e' he' hcaller
      have hmem : e' ∈ World.eventsOf ⟨g.world.store, newer⟩ i :=
        World.mem_eventsOf.mpr ⟨he', hcaller⟩
      have hsplit : g.world.eventsOf i =
          World.eventsOf ⟨g.world.store, newer⟩ i ++ (w'.after machine i .newDate ()).eventsOf i := by
        unfold World.eventsOf
        rw [htrace, List.filter_append]
      have hnil : World.eventsOf ⟨g.world.store, newer⟩ i = [] :=
        List.append_left_eq_self.mp (hsplit.symm.trans hown)
      rw [hnil] at hmem
      exact absurd hmem List.not_mem_nil
    · rw [hgrows.config]
      exact hnot
  · intro s hs
    exact recorded_fresh hs
  · intro d w hw
    exact ⟨hw.directory, hw.consecutive, hw.failures, hw.successes, hw.openUntil⟩
  · intro d w
    exact ⟨rfl, rfl, rfl, id, [], rfl⟩
  · intro c _ i w _ _
    exact body_safe c

/-! ### One agent -/

/-- Scores that do not tell candidates apart. -/
def evenScoring : Scoring where
  skillMatchScore _ _ := 1
  weightedScore _ _ _ _ _ := 1
  toFixed _ score := score
  localeCompare := compare

/-- The agent whose failures are recorded. -/
def ann : FailuresKey := ⟨"w", "a1"⟩

/-- A workspace with one agent, which one failure is enough to leave alone for five minutes. -/
def oneAgent : Store where
  agents := Table.empty.insertOrIgnore ⟨"a1", "w", "ann", "active", 0⟩
  directory := [⟨"w", some "a1", "active", "d1", "s1", 0, 0, "review", none, "[]", "[]", 0⟩]
  routingConfigs := [⟨"w", "\x7b\x7d", 1, 300⟩]
  routingFailures := Table.empty
  clock := 1700000000000

lemma oneAgent_fresh : Fresh ann oneAgent := by
  refine ⟨rfl, fun d hd a ha _ => ?_⟩
  obtain rfl := List.mem_singleton.mp hd
  have ha' : a ∈ [(⟨"a1", "w", "ann", "active", 0⟩ : AgentRow)] := ha
  obtain rfl := List.mem_singleton.mp ha'
  rfl

/-- Nothing is found in the full-text indexes. -/
def noRanks : (q : Stmt) → q.Answer
  | .findRanks .. => ⟨[], []⟩
  | .newDate | .findAgent .. | .findConfig _ | .findFailures _ | .upsertSuccess .. |
    .upsertFailure _ | .findCandidates _ => ()

abbrev oneAgentSystem := system evenScoring ann

/-- A failure, a while, and a route. -/
def failThenRoute (after' : Instant) : List oneAgentSystem.Move :=
  .start (.recordRoutingFailure "w" "ann" none) ::
    ([0, 0, 0, 0, 0].map fun i => .exec i noRanks) ++
    .drift (oneAgent.clock + after') :: .start (.routeBySkill "w" "review" "") ::
    [1, 1, 1, 1].map fun i => .exec i noRanks

/-- Two failures that both read before either has written. -/
def twoFailures : List oneAgentSystem.Move :=
  .start (.recordRoutingFailure "w" "ann" none) :: .start (.recordRoutingFailure "w" "ann" none) ::
    [0, 0, 0, 0, 1, 1, 1, 1, 0, 1].map fun i => .exec i noRanks

/-- Once the cooldown has passed, the agent is returned again, and rightly. -/
theorem breakerHolds_of_undisturbed_cooledDown :
    BreakerHolds ann (oneAgentSystem.runFrom oneAgent (failThenRoute 300000)) := by
  apply breakerHolds_of_undisturbed evenScoring ann
  apply System.runFrom_reachable_of _ _ oneAgent_fresh
  exact oneAgentSystem.allowsAll_of_passes (fun _ _ _ h => h) (fun _ _ => trivial)
    (by decide +kernel)

/-- The agent that a call has returned. -/
def returnedAgent (g : Config lang Store Result) (i : ℕ) : Option String :=
  match g.threads[i]? with
  | some ⟨.routeBySkill .., some (.done (.ok route))⟩ => some route.agentName
  | _ => none

/-- **Where the breaker does not hold.**  Two failures that both read before either has written
count as one; and a route that comes one second after the failure returns the agent. -/
theorem breaker_disturbed :
    (∃ g, oneAgentSystem.Reachable (Regime.free lang Store Call) g ∧ g.isIdle = true ∧
      g.world.store.consecutiveFailures ann ≠ failuresSince (outcomes ann g.world.trace)) ∧
    ∃ g, oneAgentSystem.Reachable (Regime.free lang Store Call) g ∧ g.isIdle = true ∧
      returnedAgent g 1 = some "ann" ∧ ∃ now,
        (g.world.trace.head?.map fun e => (e.caller, e.before.clock)) = some (1, now) ∧
          CoolingDown (g.world.store.config "w") (outcomes ann g.world.trace.tail) now := by
  constructor
  · refine ⟨_, oneAgentSystem.runFrom_reachable oneAgent_fresh twoFailures, ?_, ?_⟩
    all_goals decide +kernel
  · refine ⟨_, oneAgentSystem.runFrom_reachable oneAgent_fresh (failThenRoute 1000), ?_, ?_, ?_⟩
    · decide +kernel
    · decide +kernel
    · refine ⟨oneAgent.clock + 1000, ?_, ?_, oneAgent.clock, ?_, ?_⟩
      all_goals decide +kernel

end Routing
