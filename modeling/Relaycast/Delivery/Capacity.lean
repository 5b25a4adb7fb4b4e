import Relaycast.Delivery.Service

/-!
# Workspace capacity

Every write and every defer is supplied with the workspace's growth policy, and the guard is
evaluated inside the statement that adds the rows.  So the active depth never exceeds the cap,
however the statements interleave: a write adds at most its candidates and only if they all fit, a
defer adds at most the one failed row it restores, and nothing else adds to the depth.
-/

namespace Delivery

open Relational Interleaving

variable (p : WorkspaceDeliveryPolicy)

/-- The call is supplied with the policy `p`, if it takes one. -/
def Call.suppliesPolicy : Call → Prop
  | .writeMessage _ write => write.workspacePolicy = some p
  | .deferDelivery _ _ _ _ policy => policy = some p
  | _ => True

/-- The statement carries the policy `p`, if it takes one. -/
def Stmt.carriesPolicy : Stmt → Prop
  | .writeMessage _ write => write.workspacePolicy = some p
  | .deferUpdate _ _ _ policy => policy = some p
  | _ => True

/-- The runs in which the policy `p` is supplied to every call. -/
def withPolicy : Regime lang Store Call where
  calls c := c.suppliesPolicy p
  permits _ _ _ := True
  crashes := True

/-- What a message write is charged, from the store `s` to the store `s'`. -/
structure Charged (m : Option Message) (w : DeliveryWrite) (s s' : Store) : Prop where
  /-- A broadcast that inserts a row leaves the reserve free. -/
  reserve : w.audience = .broadcast → s'.deliveries.rows ≠ s.deliveries.rows →
    (s'.workspaceActiveDepth : ℤ) ≤ p.cap - p.reserve.getD 0
  /-- A write that does not fit fails in its delivery statement, and everything is rolled back. -/
  refused : w.candidates s ≠ [] →
    workspaceGrowthLimit p w.audience < s.workspaceActiveDepth + (w.candidates s).length →
      insertDeliveries s w = .error .nullStatus ∧ (∃ e, writeMessage s m w = .error e) ∧ s' = s
  /-- A write without a candidate row never fails, above the limit or not: what could fail is only
  the insert of a message that is stored already. -/
  empty : w.candidates s = [] → insertDeliveries s w = .ok s ∧
    s'.deliveries.rows = s.deliveries.rows ∧
      ((∀ m', m = some m' → s.messages.conflicts m' = false) → writeMessage s m w = .ok s')

/-- What the policy promises of a configuration. -/
structure CapacityKept (g : Config lang Store Call.Result) : Prop where
  depth : (g.world.store.workspaceActiveDepth : ℤ) ≤ p.cap
  writes : ∀ e ∈ g.world.trace, ∀ m w, e.stmt = Stmt.writeMessage m w →
    Charged p m w e.before e.after

variable {p}

/-- The statements of a call carry the policy it was supplied with. -/
lemma body_carriesPolicy {c : Call} (hc : c.suppliesPolicy p) :
    c.body.Issues (Stmt.carriesPolicy p) := by
  refine (body_issues c).mono fun q hq => ?_
  cases q with
  | writeMessage =>
    obtain rfl := writes_writeMessage (hq.resolve_left (by simp [Stmt.isRead]))
    exact hc
  | deferUpdate =>
    obtain ⟨_, rfl⟩ := writes_deferUpdate (hq.resolve_left (by simp [Stmt.isRead]))
    exact hc
  | _ => trivial

/-! ## Writes -/

/-- A write that succeeds raises the depth by at most its candidates. -/
lemma workspaceActiveDepth_writeMessage_le {s s' : Store} {m : Option Message} {w : DeliveryWrite}
    (h : writeMessage s m w = .ok s') :
    s'.workspaceActiveDepth ≤ s.workspaceActiveDepth + (w.candidates s).length := by
  obtain ⟨-, -, added, hsub, hins⟩ := writeMessage_ok h
  have hclock : s'.unixepoch = s.unixepoch := congrArg toSeconds hins.clock
  have hadded : added.countP (fun r => r.countsAt s.unixepoch) ≤ (w.candidates s).length :=
    List.countP_le_length.trans (hsub.length_le.trans (by simp))
  rw [Store.workspaceActiveDepth, Table.count, hins.rows, List.countP_append, hclock]
  exact Nat.add_le_add_left hadded _

/-- A write that succeeds and has a candidate fits into the limit. -/
lemma workspaceActiveDepth_writeMessage_le_limit {s s' : Store} {m : Option Message}
    {w : DeliveryWrite} (h : writeMessage s m w = .ok s') (hw : w.workspacePolicy = some p)
    (hne : w.candidates s ≠ []) :
    (s'.workspaceActiveDepth : ℤ) ≤ workspaceGrowthLimit p w.audience := by
  have hallowed := (writeMessage_ok h).1 hne
  rw [hw] at hallowed
  have hfits : (s.workspaceActiveDepth : ℤ) + (w.candidates s).length ≤
      workspaceGrowthLimit p w.audience := of_decide_eq_true hallowed
  have hle := workspaceActiveDepth_writeMessage_le h
  omega

/-- A write without candidates leaves the rows alone. -/
lemma rows_writeMessage_of_candidates_eq_nil {s s' : Store} {m : Option Message}
    {w : DeliveryWrite} (h : writeMessage s m w = .ok s') (hnil : w.candidates s = []) :
    s'.deliveries.rows = s.deliveries.rows := by
  obtain ⟨-, -, added, hsub, hins⟩ := writeMessage_ok h
  have hadded : added = [] := List.sublist_nil.mp (by simpa [hnil] using hsub)
  rw [hins.rows, hadded, List.append_nil]

/-- The delivery statement of a write that does not fit aborts on its first candidate. -/
lemma insertDeliveries_of_limit_lt {s : Store} {w : DeliveryWrite}
    (hw : w.workspacePolicy = some p) (hne : w.candidates s ≠ [])
    (hlt : workspaceGrowthLimit p w.audience <
      s.workspaceActiveDepth + (w.candidates s).length) :
    insertDeliveries s w = .error .nullStatus := by
  have hallowed : capacityAllowed s w.workspacePolicy w.audience (w.candidates s).length = false := by
    rw [hw]
    exact decide_eq_false (by omega)
  rw [insertDeliveries, hallowed]
  cases hcs : w.candidates s with
  | nil => exact absurd hcs hne
  | cons c cs => rfl

/-- Without candidates the delivery statement does nothing. -/
lemma insertDeliveries_of_candidates_eq_nil {s : Store} {w : DeliveryWrite}
    (hnil : w.candidates s = []) : insertDeliveries s w = .ok s := by
  rw [insertDeliveries, hnil]
  rfl

/-- A message write whose delivery statement does not fit fails. -/
lemma writeMessage_of_limit_lt {s : Store} (m : Option Message) {w : DeliveryWrite}
    (hw : w.workspacePolicy = some p) (hne : w.candidates s ≠ [])
    (hlt : workspaceGrowthLimit p w.audience <
      s.workspaceActiveDepth + (w.candidates s).length) :
    ∃ e, writeMessage s m w = .error e := by
  cases h : writeMessage s m w with
  | error e => exact ⟨e, rfl⟩
  | ok s' =>
    have hallowed := (writeMessage_ok h).1 hne
    rw [hw] at hallowed
    have hfits : (s.workspaceActiveDepth : ℤ) + (w.candidates s).length ≤
        workspaceGrowthLimit p w.audience := of_decide_eq_true hallowed
    omega

/-- A message write without candidates succeeds, unless its message is stored already. -/
lemma writeMessage_of_candidates_eq_nil {s : Store} {m : Option Message} {w : DeliveryWrite}
    (hnil : w.candidates s = []) (hm : ∀ m', m = some m' → s.messages.conflicts m' = false) :
    ∃ s', writeMessage s m w = .ok s' := by
  cases m with
  | none => exact ⟨s, insertDeliveries_of_candidates_eq_nil hnil⟩
  | some m =>
    have hins : insertMessage s m = .ok (s.addMessage m (hm m rfl)) := by
      rw [insertMessage, dif_pos (hm m rfl)]
    obtain ⟨-, hsame⟩ := insertMessage_inserted hins
    refine ⟨s.addMessage m (hm m rfl), ?_⟩
    show (insertMessage s m >>= fun s' => insertDeliveries s' w) = _
    rw [hins]
    exact insertDeliveries_of_candidates_eq_nil ((hsame w).1.trans hnil)

/-- **What a message write is charged under the policy.** -/
lemma charged_writeMessage (hreserve : 0 ≤ p.reserve.getD 0) (s : Store) (m : Option Message)
    {w : DeliveryWrite} (hw : w.workspacePolicy = some p) :
    Charged p m w s (runWriteMessage s m w).2 := by
  rcases run_writeMessage s m w with ⟨s', hok, hrun⟩ | ⟨e, herror, hrun⟩
  · have hstore : (runWriteMessage s m w).2 = s' := congrArg Prod.snd hrun
    rw [hstore]
    refine ⟨fun hbroadcast hrows => ?_, fun hne hlt => ?_, fun hnil => ⟨?_, ?_, fun _ => hok⟩⟩
    · have hne : w.candidates s ≠ [] := fun hnil =>
        hrows (rows_writeMessage_of_candidates_eq_nil hok hnil)
      have hle := workspaceActiveDepth_writeMessage_le_limit hok hw hne
      rw [hbroadcast, workspaceGrowthLimit, if_pos rfl, max_eq_right hreserve] at hle
      exact hle
    · obtain ⟨e, he⟩ := writeMessage_of_limit_lt m hw hne hlt
      simp [hok] at he
    · exact insertDeliveries_of_candidates_eq_nil hnil
    · exact rows_writeMessage_of_candidates_eq_nil hok hnil
  · have hstore : (runWriteMessage s m w).2 = s := congrArg Prod.snd hrun
    rw [hstore]
    refine ⟨fun _ hrows => absurd rfl hrows, fun hne hlt => ⟨?_, ⟨e, herror⟩, rfl⟩,
      fun hnil => ⟨insertDeliveries_of_candidates_eq_nil hnil, rfl, fun hm => ?_⟩⟩
    · exact insertDeliveries_of_limit_lt hw hne hlt
    · obtain ⟨s', hs'⟩ := writeMessage_of_candidates_eq_nil hnil hm
      simp [herror] at hs'

/-! ## Every statement -/

/-- A defer that restores a row was admitted below the cap. -/
lemma workspaceActiveDepth_lt_of_restores {q : Stmt} {s : Store} {r : Row}
    (hq : q.carriesPolicy p) (h : q.restores s r = true) :
    (s.workspaceActiveDepth : ℤ) < p.cap := by
  cases q with
  | deferUpdate deliveryId availableAt reason policy =>
    obtain rfl : policy = some p := hq
    simp only [Stmt.restores, Store.deferrable, Bool.and_eq_true, decide_eq_true_eq] at h
    obtain ⟨⟨⟨-, hok⟩, hfailed⟩, hunexpired⟩ := h
    have hlt : (s.workspaceActiveDepth : ℤ) < workspaceGrowthLimit p .targeted := by
      simpa [Store.workspaceCapacityOk, hfailed, hunexpired] using hok
    exact hlt.trans_le (workspaceGrowthLimit_le_cap p .targeted)
  | _ => simp [Stmt.restores] at h

/-- **Every statement that carries the policy keeps the depth within the cap.** -/
lemma workspaceActiveDepth_run_le {q : Stmt} (hq : q.carriesPolicy p) {s : Store}
    (h : (s.workspaceActiveDepth : ℤ) ≤ p.cap) (a : q.Answer) :
    ((run q a s).2.workspaceActiveDepth : ℤ) ≤ p.cap := by
  cases hwrite : q.isMessageWrite with
  | true =>
    cases q with
    | writeMessage m w =>
      rcases run_writeMessage s m w with ⟨s', hok, hrun⟩ | ⟨e, -, hrun⟩
      · have hstore : (run (.writeMessage m w) a s).2 = s' := congrArg Prod.snd hrun
        rw [hstore]
        by_cases hnil : w.candidates s = []
        · have hle := workspaceActiveDepth_writeMessage_le hok
          rw [hnil, List.length_nil] at hle
          omega
        · have hle := workspaceActiveDepth_writeMessage_le_limit hok hq hnil
          exact hle.trans (workspaceGrowthLimit_le_cap p w.audience)
      · have hstore : (run (.writeMessage m w) a s).2 = s := congrArg Prod.snd hrun
        rw [hstore]
        exact h
    | _ => simp [Stmt.isMessageWrite] at hwrite
  | false =>
    have hclock : (run q a s).2.unixepoch = s.unixepoch := congrArg toSeconds (run_clock q a s)
    have hle := count_run_le (a := a) (s := s) (fun _ => true) hwrite fun _ _ _ => rfl
    have hone := count_restores_le_one (q := q) (s := s) fun _ => true
    simp only [Bool.true_and] at hle hone
    simp only [Store.workspaceActiveDepth, hclock] at h ⊢
    by_cases hrestored : ∃ r ∈ s.deliveries, q.restores s r = true
    · -- one failed row is queued again, and there was room for it
      obtain ⟨r, -, hr⟩ := hrestored
      have hlt := workspaceActiveDepth_lt_of_restores hq hr
      simp only [Store.workspaceActiveDepth] at hlt
      omega
    · have hzero : s.deliveries.count (fun r => q.restores s r) = 0 := by
        refine List.countP_eq_zero.mpr fun r hr hrestores => ?_
        exact hrestored ⟨r, hr, hrestores⟩
      omega

/-! ## Every run -/

/-- **Workspace capacity.**  With a policy `0 ≤ reserve < cap` supplied to every call, in every run
from empty mailboxes the active depth stays within the cap, a broadcast that inserts leaves the
reserve free, a write that does not fit inserts nothing, and a write without new rows never
fails. -/
theorem capacityKept (hreserve : 0 ≤ p.reserve.getD 0) (hcap : p.reserve.getD 0 < p.cap)
    {g : Config lang Store Call.Result} (h : service.Reachable (withPolicy p) g) :
    CapacityKept p g := by
  have hinit : ∀ s, service.init s → (s.workspaceActiveDepth : ℤ) ≤ p.cap := by
    intro s hs
    have hnil : s.deliveries.rows = [] := hs
    rw [Store.workspaceActiveDepth, Table.count, hnil]
    simp only [List.countP_nil]
    omega
  have hdrift : ∀ d (w : World lang Store), (w.store.workspaceActiveDepth : ℤ) ≤ p.cap →
      ((w.drift machine d).store.workspaceActiveDepth : ℤ) ≤ p.cap := by
    intro d w hw
    have hle := count_drift_le (s := w.store) (fun _ => true) d
    simp only [Bool.true_and] at hle
    exact (Int.ofNat_le.mpr hle).trans hw
  refine ⟨System.invariant_of_statements (P := Stmt.carriesPolicy p)
    (I := fun w => (w.store.workspaceActiveDepth : ℤ) ≤ p.cap) hinit hdrift
    (fun c hc => body_carriesPolicy hc)
    (fun w i q hq hw _ a => workspaceActiveDepth_run_le hq hw a) h, ?_⟩
  refine System.events_of_statements (P := Stmt.carriesPolicy p)
    (I := fun _ => True) (fun _ _ => trivial) (fun _ _ _ => trivial)
    (fun c hc => body_carriesPolicy hc) (fun _ _ _ _ _ _ _ => trivial) ?_ h
  rintro w i q hq - a m write hstmt
  obtain rfl : q = .writeMessage m write := hstmt
  exact charged_writeMessage hreserve w.store m hq

/-- A workspace of capacity two with one place reserved, and two direct messages. -/
theorem capacityKept_twoMessages :
    let p : WorkspaceDeliveryPolicy := ⟨2, some 1⟩
    let g := service.runFrom (oneAgent 0) [.start (directMessage "1" 100 (some p)),
      .start (directMessage "2" 100 (some p)), .exec 1 (steady 1000000 true),
      .exec 0 (steady 1000000 true)]
    g.world.store.workspaceActiveDepth = 2 ∧ CapacityKept p g :=
  ⟨by decide +kernel, capacityKept (by decide) (by decide)
    (service.runFrom_reachable_of (withPolicy ⟨2, some 1⟩) (s := oneAgent 0) rfl
      ⟨rfl, rfl, fun _ _ _ _ => trivial, fun _ _ _ _ => trivial, trivial⟩)⟩

end Delivery
