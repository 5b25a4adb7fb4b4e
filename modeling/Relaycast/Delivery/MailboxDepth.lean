import Relaycast.Delivery.Service

/-!
# Mailbox depth

A recipient's depth cap is tested where a message write selects its candidates, and nowhere else.
A failed row does not count, so its slot can be filled by a later message; deferring the failed row
then queues it again without a test, and the mailbox holds one delivery more than the cap.  The
workspace guard of the same update covers exactly this transition; the mailbox has no such guard.

Every other statement keeps the cap.  What is left to ask of a run is that a defer restores a
failed, unexpired row only while there is room in the mailbox.
-/

namespace Delivery

open Relational Interleaving

/-- No mailbox holds more than `cap` active, unexpired deliveries. -/
def WithinDepthCap (cap : ℕ) (s : Store) : Prop := ∀ agentId, s.mailboxDepth agentId ≤ cap

/-- The message writes of the call are made with this depth cap. -/
def Call.suppliesDepthCap (cap : ℕ) : Call → Prop
  | .writeMessage _ write => write.depthCap = cap
  | _ => True

/-- The statement is no message write, or one made with this depth cap. -/
def Stmt.carriesDepthCap (cap : ℕ) : Stmt → Prop
  | .writeMessage _ write => write.depthCap = cap
  | _ => True

/-- The runs in which all message writes are made with one depth cap. -/
def withDepthCap (cap : ℕ) : Regime lang Store Call where
  calls c := c.suppliesDepthCap cap
  permits _ _ _ := True
  crashes := True

/-- Those in which a defer restores a failed, unexpired row only while its recipient's mailbox is
below the cap. -/
def restoresBelowDepthCap (cap : ℕ) : Regime lang Store Call where
  calls c := c.suppliesDepthCap cap
  permits w _ q := ∀ r ∈ w.store.deliveries, q.restores w.store r = true →
    w.store.mailboxDepth r.agentId < cap
  crashes := True

lemma body_carriesDepthCap {cap : ℕ} {c : Call} (hc : c.suppliesDepthCap cap) :
    c.body.Issues (Stmt.carriesDepthCap cap) := by
  refine (body_issues c).mono fun q hq => ?_
  cases q with
  | writeMessage =>
    obtain rfl := writes_writeMessage (hq.resolve_left (by simp [Stmt.isRead]))
    exact hc
  | _ => trivial

/-! ## The admission test -/

/-- The two counts of `belowDepthCapSql` add up to the mailbox depth. -/
lemma mailboxDepth_eq_add (s : Store) (agentId : AgentId) :
    s.mailboxDepth agentId =
      s.deliveries.count (fun r => r.agentId == agentId && r.status.isActive &&
        r.expiresAt.isNone) +
      s.deliveries.count fun r => r.agentId == agentId && r.status.isActive &&
        r.expiresAt.any fun e => decide (s.unixepoch < e) := by
  simp only [Store.mailboxDepth, Table.count]
  induction s.deliveries.rows with
  | nil => rfl
  | cons r rows ih =>
    have hsplit : (if (r.agentId == agentId && r.countsAt s.unixepoch) = true then 1 else 0) =
        (if (r.agentId == agentId && r.status.isActive && r.expiresAt.isNone) = true
          then 1 else 0) +
        if (r.agentId == agentId && r.status.isActive &&
          r.expiresAt.any fun e => decide (s.unixepoch < e)) = true then 1 else 0 := by
      cases hexp : r.expiresAt <;> simp [Row.countsAt, Row.unexpired, hexp, and_assoc]
    rw [List.countP_cons, List.countP_cons, List.countP_cons, ih, hsplit]
    omega

/-- `belowDepthCapSql` tests that the mailbox is below the cap. -/
lemma belowDepthCap_eq_true {s : Store} {agentId : AgentId} {cap : ℕ} :
    s.belowDepthCap agentId cap = true ↔ s.mailboxDepth agentId < cap := by
  rw [mailboxDepth_eq_add, Store.belowDepthCap]
  simp only [decide_eq_true_eq]
  omega

/-! ## Writes -/

/-- A write that succeeds inserts at most one row for a recipient: its rows are all of one
message. -/
lemma countP_added_le_one {s s' : Store} {w : DeliveryWrite} {added : List Row}
    (hsub : added.Sublist ((w.candidates s).map Candidate.row)) (hins : Inserted s s' added)
    (agentId : AgentId) : added.countP (fun r => r.agentId == agentId) ≤ 1 := by
  have hmessage : ∀ r ∈ added, r.messageId = w.envelope.messageId := by
    intro r hr
    obtain ⟨c, hc, rfl⟩ := List.mem_map.mp (hsub.subset hr)
    obtain ⟨a, -, id, reason, hrow, -⟩ := candidate_newRow hc
    rw [hrow]
    rfl
  have hunique := s'.deliveries.unique
  rw [hins.rows, List.map_append, List.pairwise_append] at hunique
  have hpair := List.pairwise_map.mp hunique.2.1
  refine countP_le_one_of_pairwise hpair fun r hr r' hr' hid hid' => ?_
  rw [show clash (key r) (key r') = RowKey.clash (key r) (key r') from rfl, RowKey.clash,
    show (key r).messageId = (key r').messageId from (hmessage r hr).trans (hmessage r' hr').symm,
    show (key r).agentId = (key r').agentId from (beq_iff_eq.mp hid).trans (beq_iff_eq.mp hid').symm]
  simp

/-- A write made with the cap keeps it: it inserts for a recipient only below the cap. -/
lemma WithinDepthCap.writeMessage {cap : ℕ} {s s' : Store} {m : Option Message} {w : DeliveryWrite}
    (h : WithinDepthCap cap s) (hw : w.depthCap = cap) (hok : writeMessage s m w = .ok s') :
    WithinDepthCap cap s' := by
  intro agentId
  obtain ⟨-, hnull, added, hsub, hins⟩ := writeMessage_ok hok
  have hclock : s'.unixepoch = s.unixepoch := congrArg toSeconds hins.clock
  have hold := h agentId
  simp only [Store.mailboxDepth, Table.count, hins.rows, List.countP_append, hclock] at hold ⊢
  have hmono : added.countP (fun r => r.agentId == agentId && r.countsAt s.unixepoch) ≤
      added.countP fun r => r.agentId == agentId :=
    List.countP_mono_left fun r _ hr => (Bool.and_eq_true_iff.mp hr).1
  by_cases hany : ∃ r ∈ added, r.agentId = agentId
  · obtain ⟨r, hr, rfl⟩ := hany
    obtain ⟨c, hc, rfl⟩ := List.mem_map.mp (hsub.subset hr)
    obtain ⟨a, -, id, reason, hrow, hbelow⟩ := candidate_newRow hc
    have hagent : c.row.agentId = a.id := by
      rw [hrow]
      rfl
    have hroom := belowDepthCap_eq_true.mp (hbelow (hnull c hc))
    rw [hw, ← hagent] at hroom
    simp only [Store.mailboxDepth, Table.count] at hroom
    have hone := countP_added_le_one hsub hins c.row.agentId
    omega
  · have hzero : added.countP (fun r => r.agentId == agentId) = 0 := by
      refine List.countP_eq_zero.mpr fun r hr hid => ?_
      exact hany ⟨r, hr, by simpa using hid⟩
    omega

/-! ## Every run -/

/-- Every statement keeps the cap, if a defer restores below it only. -/
lemma WithinDepthCap.run {cap : ℕ} {q : Stmt} (hq : q.carriesDepthCap cap) {s : Store}
    (h : WithinDepthCap cap s)
    (hrestores : ∀ r ∈ s.deliveries, q.restores s r = true → s.mailboxDepth r.agentId < cap)
    (a : q.Answer) : WithinDepthCap cap (Delivery.run q a s).2 := by
  cases hwrite : q.isMessageWrite with
  | true =>
    cases q with
    | writeMessage m w =>
      rcases run_writeMessage s m w with ⟨s', hok, hrun⟩ | ⟨e, -, hrun⟩
      · have hstore : (Delivery.run (.writeMessage m w) a s).2 = s' := congrArg Prod.snd hrun
        rw [hstore]
        exact h.writeMessage hq hok
      · have hstore : (Delivery.run (.writeMessage m w) a s).2 = s := congrArg Prod.snd hrun
        rw [hstore]
        exact h
    | _ => simp [Stmt.isMessageWrite] at hwrite
  | false =>
    intro agentId
    have hclock : (Delivery.run q a s).2.unixepoch = s.unixepoch :=
      congrArg toSeconds (run_clock q a s)
    have hle := count_run_le (a := a) (s := s) (fun r => r.agentId == agentId) hwrite
      fun r r' hkey => congrArg (fun k : RowKey => k.agentId == agentId) hkey
    have hone := count_restores_le_one (q := q) (s := s) fun r => r.agentId == agentId
    have hold := h agentId
    simp only [Store.mailboxDepth, hclock] at hold ⊢
    by_cases hrestored : ∃ r ∈ s.deliveries, r.agentId = agentId ∧ q.restores s r = true
    · obtain ⟨r, hr, rfl, hr'⟩ := hrestored
      have hroom := hrestores r hr hr'
      simp only [Store.mailboxDepth] at hroom
      omega
    · have hzero : s.deliveries.count (fun r => r.agentId == agentId && q.restores s r) = 0 := by
        refine List.countP_eq_zero.mpr fun r hr hboth => ?_
        obtain ⟨hid, hrestores⟩ := Bool.and_eq_true_iff.mp hboth
        exact hrestored ⟨r, hr, by simpa using hid, hrestores⟩
      omega

/-- **Mailboxes stay within their depth cap** in every run in which a defer restores a failed,
unexpired row only while its recipient's mailbox is below the cap. -/
theorem withinDepthCap_of_restoresBelowDepthCap {cap : ℕ} {g : Config lang Store Call.Result}
    (h : service.Reachable (restoresBelowDepthCap cap) g) : WithinDepthCap cap g.world.store := by
  refine System.invariant_of_statements (P := Stmt.carriesDepthCap cap)
    (I := fun w => WithinDepthCap cap w.store) (fun s hs => ?_) (fun d w hw agentId => ?_)
    (fun c hc => body_carriesDepthCap hc)
    (fun w i q hq hw hperm a => ?_) h
  · intro agentId
    have hnil : s.deliveries.rows = [] := hs
    rw [Store.mailboxDepth, Table.count, hnil]
    exact Nat.zero_le _
  · exact (count_drift_le (s := w.store) (fun r => r.agentId == agentId) d).trans
      (hw agentId)
  · exact WithinDepthCap.run hq hw hperm a

/-! ## A restored delivery -/

/-- Under a depth cap of one: a message is delivered and fails, a second message takes the slot,
and the first delivery is deferred. -/
def deferOverDepthCap : List service.Move :=
  [.start (directMessage "1" 1 none), .exec 0 (steady 1000000 true),
    .start (.failDelivery "agt" "del_1_agt" none none),
    .exec 1 (steady 1000000 true), .exec 1 (steady 1000000 true),
    .start (directMessage "2" 1 none), .exec 2 (steady 1000000 true),
    .start (.deferDelivery "agt" "del_1_agt" 1000000 none none),
    .exec 3 (steady 1000000 true), .exec 3 (steady 1000000 true)]

/-- **A deferred failure overfills the mailbox.** -/
theorem not_withinDepthCap_deferOverDepthCap :
    ¬ ∀ (cap : ℕ) (g : Config lang Store Call.Result),
      service.Reachable (withDepthCap cap) g → WithinDepthCap cap g.world.store := by
  intro h
  have hreach : service.Reachable (withDepthCap 1)
      (service.runFrom (oneAgent 0) deferOverDepthCap) :=
    service.runFrom_reachable_of _ (s := oneAgent 0) rfl
      ⟨rfl, fun _ _ _ _ => trivial, trivial, fun _ _ _ _ => trivial, fun _ _ _ _ => trivial,
        rfl, fun _ _ _ _ => trivial, trivial, fun _ _ _ _ => trivial, fun _ _ _ _ => trivial,
        trivial⟩
  exact absurd (h 1 _ hreach "agt") (by decide +kernel)

/-- The condition holds, for instance, while nothing is deferred: of two messages under a cap of
one, the second is not delivered. -/
theorem withinDepthCap_of_restoresBelowDepthCap_twoMessages :
    WithinDepthCap 1 (service.runFrom (oneAgent 0) [.start (directMessage "1" 1 none),
      .exec 0 (steady 1000000 true), .start (directMessage "2" 1 none),
      .exec 1 (steady 1000000 true)]).world.store := by
  refine withinDepthCap_of_restoresBelowDepthCap (service.runFrom_reachable_of _ (s := oneAgent 0)
    rfl ⟨rfl, fun c q k hk r hr hrestores => ?_, rfl, fun c q k hk r hr hrestores => ?_, trivial⟩)
  all_goals
    obtain ⟨rfl, hprog⟩ := (Thread.mk.injEq ..).mp (Option.some.inj hk)
    obtain ⟨rfl, -⟩ := (Prog.stmt.injEq ..).mp (Option.some.inj (eq_of_heq hprog))
    simp [Stmt.restores] at hrestores

end Delivery
