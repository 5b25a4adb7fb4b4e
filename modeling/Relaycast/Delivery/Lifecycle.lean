import Mathlib.Algebra.GroupWithZero.Nat
import Relaycast.Delivery.Service

/-!
# The delivery lifecycle

Eight functions write the status of a delivery, each after a read of its own and under a guard of
its own.  However their statements interleave, an acked or dead-lettered row is final, an
acknowledgement is reported once, every id that marking or a sweep reports stands for one
transition of that row made by that call, and a row reported as unchanged is the stored one.

The acknowledgement of a row is counted in credits: the batch that acks it earns one, which the
call holds until it returns; no batch can ack it again.
-/

namespace Delivery

open Relational Interleaving

/-- The functions that move deliveries through their openService. -/
def Call.isTransition : Call → Bool
  | .ackDelivery .. | .failDelivery .. | .deferDelivery .. | .ackDeliveriesUpToSeq ..
  | .markDeliveriesDelivered .. | .markRead .. | .expireDueDeliveryBatch ..
  | .deadLetterUnreachableDeliveryBatch .. => true
  | _ => false

/-- The runs of the lifecycle functions, with every interleaving and every crash. -/
def transitionsOnly : Regime lang Store Call where
  calls c := c.isTransition = true
  permits _ _ _ := True
  crashes := True

/-! ## What the calls report -/

/-- How often a result reports that `x` was acknowledged. -/
def ackReports (x : DeliveryId) : (c : Call) → c.Result → ℕ
  | .ackDelivery .., (result : Option TransitionResult) =>
    match result with
    | some ⟨delivery, true⟩ => if delivery.id = x then 1 else 0
    | _ => 0
  | .ackDeliveriesUpToSeq .., (result : Option CumulativeAck) =>
    match result with
    | some ack => ack.ackedDeliveryIds.count x
    | none => 0
  | _, _ => 0

/-- The ids a result reports as moved: the marked ones, or those of the sender notices. -/
def movedIds : (c : Call) → c.Result → List DeliveryId
  | .markDeliveriesDelivered .., (result : List DeliveryId) => result
  | .expireDueDeliveryBatch .., (result : ExpiredDeliveryBatch)
  | .deadLetterUnreachableDeliveryBatch .., (result : ExpiredDeliveryBatch) =>
    result.notices.map DeliveryFailureNotice.deliveryId
  | _, _ => []

/-- The status they are reported to have moved to. -/
def movedTo : Call → DeliveryStatus
  | .markDeliveriesDelivered .. => .delivered
  | _ => .deadLettered

/-- The transition a result reports, with the agent and the delivery it was asked for. -/
def reportedTransition : (c : Call) → c.Result → Option (AgentId × DeliveryId × TransitionResult)
  | .ackDelivery agentId deliveryId, (result : Option TransitionResult)
  | .failDelivery agentId deliveryId _ _, (result : Option TransitionResult) =>
    result.map fun t => (agentId, deliveryId, t)
  | .deferDelivery agentId deliveryId _ _ _,
      (result : Except WorkspaceDeliveryCapacityError (Option TransitionResult)) =>
    match result with
    | .ok result => result.map fun t => (agentId, deliveryId, t)
    | .error _ => none
  | _, _ => none

/-! ## What the statements did -/

/-- The statement took `x` out of a status that is neither acked nor dead-lettered. -/
def leaves (x : DeliveryId) (e : Event lang Store) : Bool :=
  match e.before.delivery? x, e.after.delivery? x with
  | some r, some r' => !r.status.isTerminal && decide (r'.status ≠ r.status)
  | _, _ => false

/-- Call `i` took `x` out of such a status with exactly one of its statements, to `target`. -/
def MovedOnce (w : World lang Store) (i : ℕ) (target : DeliveryStatus) (x : DeliveryId) : Prop :=
  ∃ e, (w.eventsOf i).filter (leaves x) = [e] ∧
    ∃ r, e.after.delivery? x = some r ∧ r.status = target

/-- The last statement of call `i` was a read, and `d` is what was stored then. -/
def AsStored (w : World lang Store) (i : ℕ) (agentId : AgentId) (deliveryId : DeliveryId)
    (d : SerializedDelivery) : Prop :=
  ∃ e, (w.eventsOf i).head? = some e ∧ e.after = e.before ∧
    ∃ r ∈ e.before.deliveries, ∃ m ∈ e.before.messages,
      r.id = deliveryId ∧ r.agentId = agentId ∧ m.id = r.messageId ∧
        d = serializeDelivery ⟨r, m.channelId⟩

/-- What the lifecycle promises of a configuration. -/
structure LifecycleSound (g : Config lang Store Call.Result) : Prop where
  /-- An acked or dead-lettered row is stored unchanged ever after. -/
  settled : ∀ g', Relation.ReflTransGen (openService.Step transitionsOnly) g g' →
    ∀ r ∈ g.world.store.deliveries, r.status.isTerminal = true → r ∈ g'.world.store.deliveries
  /-- The acknowledgement of a row is reported at most once, by all calls together. -/
  ackedOnce : ∀ x, g.reported (ackReports x) ≤ 1
  /-- The ids a call reports are distinct, and each stands for one transition it made. -/
  moved : ∀ i c a, g.threads[i]? = some ⟨c, some (.done a)⟩ → (movedIds c a).Nodup ∧
    ∀ x ∈ movedIds c a, MovedOnce g.world i (movedTo c) x
  /-- What a call reports as unchanged is what was stored when it last looked. -/
  unchanged : ∀ i c a agentId deliveryId d, g.threads[i]? = some ⟨c, some (.done a)⟩ →
    reportedTransition c a = some (agentId, deliveryId, ⟨d, false⟩) →
      AsStored g.world i agentId deliveryId d

/-! ## Statements that keep the rows -/

/-- A statement that neither inserts nor deletes deliveries. -/
def Stmt.keepsRows (q : Stmt) : Prop := q.isMessageWrite = false ∧ ∀ s r, q.removes s r = false

lemma run_rows_of_keepsRows {q : Stmt} (hq : q.keepsRows) (a : q.Answer) (s : Store) :
    (run q a s).2.deliveries.rows = s.deliveries.rows.map (q.effect a s) := by
  rw [run_rows q a s hq.1]
  simp [hq.2]

lemma delivery?_run {q : Stmt} (hq : q.keepsRows) (a : q.Answer) (s : Store) (x : DeliveryId) :
    (run q a s).2.delivery? x = (s.delivery? x).map (q.effect a s) := by
  rw [Store.delivery?, run_rows_of_keepsRows hq, List.find?_map]
  refine congrArg (Option.map _) (congrArg (fun p => List.find? p _) (funext fun r => ?_))
  exact congrArg (· == x) (KeepsKey.id (q.key_effect a s) r)

lemma keepsRows_of_isRead {q : Stmt} (hq : q.isRead = true) : q.keepsRows := by
  cases q <;> first | exact ⟨rfl, fun _ _ => rfl⟩ | simp [Stmt.isRead] at hq

/-- The lifecycle functions neither insert nor delete. -/
lemma body_keepsRows {c : Call} (hc : c.isTransition = true) : c.body.Issues Stmt.keepsRows := by
  refine (body_issues c).mono fun q hq => ?_
  rcases hq with hq | hq
  · exact keepsRows_of_isRead hq
  · cases c with
    | ackDelivery | markDeliveriesDelivered | deadLetterUnreachableDeliveryBatch =>
      obtain ⟨_, _, rfl⟩ := hq
      exact ⟨rfl, fun _ _ => rfl⟩
    | ackDeliveriesUpToSeq =>
      obtain ⟨_, _, _, rfl⟩ := hq
      exact ⟨rfl, fun _ _ => rfl⟩
    | markRead | expireDueDeliveryBatch =>
      obtain ⟨_, rfl⟩ := hq
      exact ⟨rfl, fun _ _ => rfl⟩
    | failDelivery | deferDelivery =>
      obtain rfl := hq
      exact ⟨rfl, fun _ _ => rfl⟩
    | _ => simp [Call.isTransition] at hc

/-! ## One statement -/

/-- The row a statement made into an acked or dead-lettered one, or another status, was hit by its
update. -/
lemma leaves_event {q : Stmt} (hq : q.keepsRows) (w : World lang Store) (i : ℕ) (a : q.Answer)
    (x : DeliveryId) :
    leaves x (w.event machine i q a) = true ↔
      ∃ r u, w.store.delivery? x = some r ∧ q.update a = some u ∧ u.hits w.store r = true ∧
        r.status ≠ u.target := by
  have hafter : (w.event machine i q a).after.delivery? x =
      (w.store.delivery? x).map (q.effect a w.store) := delivery?_run hq a w.store x
  unfold leaves
  rw [hafter, World.event_before]
  cases hx : w.store.delivery? x with
  | none => simp
  | some r =>
    simp only [Option.map_some, Bool.and_eq_true, Bool.not_eq_true', decide_eq_true_eq,
      Option.some.injEq]
    constructor
    · rintro ⟨-, hne⟩
      rcases q.effect_cases a w.store r with h | ⟨u, hu, hits, h⟩
      · exact absurd (congrArg Row.status h) hne
      · rw [h, u.change_status] at hne
        exact ⟨r, u, rfl, hu, hits, hne.symm⟩
    · rintro ⟨r', u, rfl, hu, hits, hne⟩
      have heffect : q.effect a w.store r = u.change r := by simp [Stmt.effect, hu, hits]
      refine ⟨Update.not_isTerminal_of_hits hits, ?_⟩
      rw [heffect, u.change_status]
      exact hne.symm

/-- A read moves nothing. -/
lemma leaves_read {q : Stmt} (hq : q.isRead = true) (w : World lang Store) (i : ℕ) (a : q.Answer)
    (x : DeliveryId) : leaves x (w.event machine i q a) = false := by
  have hsame : (w.event machine i q a).after = (w.event machine i q a).before :=
    run_isRead hq a w.store
  unfold leaves
  rw [hsame]
  cases (w.event machine i q a).before.delivery? x <;> simp

/-- A row that is acked or dead-lettered is stored unchanged after the statement. -/
lemma mem_run_of_isTerminal {q : Stmt} (hq : q.keepsRows) (a : q.Answer) {s : Store} {r : Row}
    (hr : r ∈ s.deliveries) (hterm : r.status.isTerminal = true) :
    r ∈ (run q a s).2.deliveries := by
  rw [Table.mem_def, run_rows_of_keepsRows hq]
  exact List.mem_map.mpr ⟨r, hr, q.effect_of_isTerminal a s hterm⟩

/-! ## The discipline -/

/-- While call `i` is between two statements the others leave its history alone.  At most one call
holds a credit for the acknowledgement of `x`, and then the stored row is acked. -/
def reportDiscipline (x : DeliveryId) : Discipline lang Store ℕ where
  rely i w w' := w'.eventsOf i = w.eventsOf i
  refl _ _ := rfl
  trans _ _ _ _ h h' := h'.trans h
  inv w n := n = 0 ∨ n = 1 ∧ ∃ r, w.store.delivery? x = some r ∧ r.status = .acked

/-- Statements that earn nothing keep the credits covered. -/
lemma reportDiscipline_inv {x : DeliveryId} {q : Stmt} (hq : q.keepsRows) {w : World lang Store}
    {n : ℕ} (h : (reportDiscipline x).inv w n) (i : ℕ) (a : q.Answer) :
    (reportDiscipline x).inv (w.after machine i q a) n := by
  rcases h with h | ⟨h, r, hr, hacked⟩
  · exact .inl h
  · refine .inr ⟨h, r, ?_, hacked⟩
    have hterm : r.status.isTerminal = true := by
      rw [hacked]
      rfl
    show (run q a w.store).2.delivery? x = some r
    rw [delivery?_run hq, hr, Option.map_some, q.effect_of_isTerminal a w.store hterm]

/-- The batch that acks `x` earns the one credit there is for it. -/
lemma reportDiscipline_inv_ackRows {x : DeliveryId} {w : World lang Store} {n : ℕ}
    (h : (reportDiscipline x).inv w n) (i : ℕ) (agentId : AgentId)
    (rows : List DeliveryWithChannel) (upTo : Option ℕ) (now : Millis) :
    (reportDiscipline x).inv (w.after machine i (.ackRows agentId rows upTo) now)
      (((w.store.ackRows agentId rows upTo now).1.map Row.id).count x + n) := by
  have hkeeps : (Stmt.ackRows agentId rows upTo).keepsRows := ⟨rfl, fun _ _ => rfl⟩
  have hids : (w.store.ackRows agentId rows upTo now).1.map Row.id =
      (w.store.deliveries.select
        (Store.ackableIn (rows.map fun row => row.delivery.id))).map Row.id := by
    rw [Store.ackRows_reply, List.map_map]
    exact List.map_congr_left fun r _ => KeepsKey.id (Store.key_ackedRow now) r
  rw [hids]
  by_cases hmem : x ∈ (w.store.deliveries.select
      (Store.ackableIn (rows.map fun row => row.delivery.id))).map Row.id
  · obtain ⟨r, hr, hid⟩ := List.mem_map.mp hmem
    obtain ⟨hr, hits⟩ := Table.mem_select.mp hr
    have hx : w.store.delivery? x = some r := w.store.delivery?_eq_some.mpr ⟨hr, hid⟩
    have hopen : r.status.isTerminal = false := by
      simpa [Store.ackableIn] using (Bool.and_eq_true_iff.mp hits).2
    -- the row was not acked before, so nobody holds a credit for it
    have hzero : n = 0 := by
      rcases h with h | ⟨-, r', hr', hacked⟩
      · exact h
      · obtain rfl : r = r' := Option.some.inj (hx.symm.trans hr')
        simp [hacked, DeliveryStatus.isTerminal] at hopen
    have hcount := List.count_eq_one_of_mem (w.store.nodup_select_ids _) hmem
    refine .inr ⟨by rw [hcount, hzero], Store.ackedRow now r, ?_, rfl⟩
    refine (delivery?_run hkeeps now w.store x).trans ?_
    rw [hx, Option.map_some]
    exact congrArg some (if_pos hits)
  · rw [List.count_eq_zero_of_not_mem hmem, Nat.zero_add]
    exact reportDiscipline_inv hkeeps h i now

section Safe

variable {x : DeliveryId} {i : ℕ} {α : Type} {Q : α → ℕ → World lang Store → Prop}

/-- Safe to run under the discipline of `x`. -/
abbrev Reports (x : DeliveryId) (i : ℕ) (Q : α → ℕ → World lang Store → Prop) (p : Prog lang α)
    (n : ℕ) (w : World lang Store) : Prop :=
  (reportDiscipline x).Safe machine transitionsOnly.permits i Q p n w

/-- The rule of a statement that earns nothing. -/
lemma Reports.await {q : Stmt} {f : q.Reply → Prog lang α} {n : ℕ} {w : World lang Store}
    (hq : q.keepsRows)
    (h : ∀ w' : World lang Store, w'.eventsOf i = w.eventsOf i → ∀ a : q.Answer,
      ∀ r, r = (run q a w'.store).1 → Reports x i Q (f r) n (w'.after machine i q a)) :
    Reports x i Q (Delivery.await q >>= f) n w := by
  refine Discipline.Safe.ask_bind fun w' rest hw hI _ a => ⟨fun j hj => ?_, n, ?_, h w' hw a⟩
  · exact World.eventsOf_after_ne machine w' i q a hj
  · exact reportDiscipline_inv hq hI i a

/-- The rule of an acknowledging batch: it earns the rows it reports. -/
lemma Reports.ackRows {agentId : AgentId} {rows : List DeliveryWithChannel} {upTo : Option ℕ}
    {f : List Row → Prog lang α} {n : ℕ} {w : World lang Store}
    (h : ∀ w' : World lang Store, w'.eventsOf i = w.eventsOf i → ∀ now : Millis,
      ∀ r, r = (w'.store.ackRows agentId rows upTo now).1 →
        Reports x i Q (f r) ((r.map Row.id).count x + n)
          (w'.after machine i (.ackRows agentId rows upTo) now)) :
    Reports x i Q (Delivery.await (.ackRows agentId rows upTo) >>= f) n w := by
  refine Discipline.Safe.ask_bind fun w' rest hw hI _ (now : Millis) => ⟨fun j hj => ?_,
    ((w'.store.ackRows agentId rows upTo now).1.map Row.id).count x + n, ?_, ?_⟩
  · exact World.eventsOf_after_ne machine w' i (.ackRows agentId rows upTo) now hj
  · rw [Nat.add_assoc]
    exact reportDiscipline_inv_ackRows hI i agentId rows upTo now
  · rintro r rfl
    exact h w' hw now _ rfl

/-! ## Transitions of one row -/

/-- What a read of an owned delivery replies is stored. -/
lemma asStored_getOwnedDelivery (w : World lang Store) {agentId : AgentId}
    {deliveryId : DeliveryId} (a : (Stmt.getOwnedDelivery agentId deliveryId).Answer)
    {row : DeliveryWithChannel} (h : w.store.getOwnedDelivery agentId deliveryId = some row) :
    AsStored (w.after machine i (.getOwnedDelivery agentId deliveryId) a) i agentId deliveryId
      (serializeDelivery row) := by
  obtain ⟨r, hr, hrow⟩ := Option.bind_eq_some_iff.mp h
  obtain ⟨m, hm, hrow⟩ := Option.bind_eq_some_iff.mp hrow
  obtain rfl := Option.some.inj hrow
  have hids : r.id = deliveryId ∧ r.agentId = agentId := by simpa using List.find?_some hr
  have hmid : m.id = r.messageId := by simpa using List.find?_some hm
  have hmem : m ∈ w.store.messages := List.mem_of_find?_eq_some hm
  refine ⟨w.event machine i (.getOwnedDelivery agentId deliveryId) a, ?_, rfl, r,
    List.mem_of_find?_eq_some hr, m, hmem, hids.1, hids.2, hmid, rfl⟩
  rw [World.eventsOf_after_self, List.head?_cons]

/-- What `resolveTransition` reports: the updated row as changed, or the stored one as
unchanged. -/
def Resolved (w : World lang Store) (i : ℕ) (agentId : AgentId) (deliveryId : DeliveryId)
    (updated : Option Row) (result : Option TransitionResult) : Prop :=
  ∀ t, result = some t →
    (t.changed = true → ∃ row channelId, updated = some row ∧
      t.delivery = serializeDelivery ⟨row, channelId⟩) ∧
    (t.changed = false → AsStored w i agentId deliveryId t.delivery)

lemma resolveTransition_reports (agentId : AgentId) (deliveryId : DeliveryId)
    (updated : Option Row) (channelId : ChannelId) (n : ℕ) (w : World lang Store) :
    Reports x i (fun result m w' => m = n ∧ Resolved w' i agentId deliveryId updated result)
      (resolveTransition agentId deliveryId updated channelId) n w := by
  cases updated with
  | some row =>
    refine ⟨rfl, fun t ht => ?_⟩
    obtain rfl := Option.some.inj ht
    exact ⟨fun _ => ⟨row, channelId, rfl, rfl⟩, fun h => by simp at h⟩
  | none =>
    refine Reports.await (keepsRows_of_isRead rfl) fun w' _ a current hcurrent => ⟨rfl, ?_⟩
    intro t ht
    obtain ⟨row, hrow, rfl⟩ := Option.map_eq_some_iff.mp ht
    refine ⟨fun h => by simp at h, fun _ => asStored_getOwnedDelivery w' a ?_⟩
    exact hcurrent.symm.trans hrow

/-- What a first read that settles the matter reports. -/
lemma resolved_existing (w : World lang Store) {agentId : AgentId} {deliveryId : DeliveryId}
    (a : (Stmt.getOwnedDelivery agentId deliveryId).Answer) {row : DeliveryWithChannel}
    (h : some row = w.store.getOwnedDelivery agentId deliveryId) :
    Resolved (w.after machine i (.getOwnedDelivery agentId deliveryId) a) i agentId deliveryId
      none (some ⟨serializeDelivery row, false⟩) := by
  intro t ht
  obtain rfl := Option.some.inj ht
  exact ⟨fun h => by simp at h, fun _ => asStored_getOwnedDelivery w a h.symm⟩

lemma ackDelivery_reports (agentId : AgentId) (deliveryId : DeliveryId) (w : World lang Store) :
    Reports x i (fun result n w' => ∃ updated : List Row, (updated.map Row.id).count x ≤ n ∧
        Resolved w' i agentId deliveryId updated.head? result)
      (ackDelivery agentId deliveryId) 0 w := by
  refine Reports.await (keepsRows_of_isRead rfl)
    fun w₁ _ a₁ (existing : Option DeliveryWithChannel) hexisting => ?_
  cases existing with
  | none => exact ⟨[], by simp, fun t ht => by simp at ht⟩
  | some existing =>
    dsimp only
    split_ifs
    · exact ⟨[], by simp, resolved_existing w₁ a₁ hexisting⟩
    · refine Reports.ackRows fun w₂ _ now updated _ => ?_
      refine (resolveTransition_reports agentId deliveryId updated.head? _ _ _).mono ?_
      rintro result n w' ⟨rfl, hresolved⟩
      exact ⟨updated, le_rfl, hresolved⟩

lemma failDelivery_reports (agentId : AgentId) (deliveryId : DeliveryId) (error : Option String)
    (retryable : Option Bool) (n : ℕ) (w : World lang Store) :
    Reports x i (fun result _ w' => ∃ updated, Resolved w' i agentId deliveryId updated result)
      (failDelivery agentId deliveryId error retryable) n w := by
  refine Reports.await (keepsRows_of_isRead rfl)
    fun w₁ _ a₁ (existing : Option DeliveryWithChannel) hexisting => ?_
  cases existing with
  | none => exact ⟨none, fun t ht => by simp at ht⟩
  | some existing =>
    dsimp only
    split_ifs
    · exact ⟨none, resolved_existing w₁ a₁ hexisting⟩
    · refine Reports.await ⟨rfl, fun _ _ => rfl⟩ fun w₂ _ a₂ (updated : Option Row) _ => ?_
      refine (resolveTransition_reports agentId deliveryId updated _ _ _).mono ?_
      rintro result m w' ⟨-, hresolved⟩
      exact ⟨updated, hresolved⟩

lemma deferDelivery_reports (agentId : AgentId) (deliveryId : DeliveryId) (availableAt : Millis)
    (reason : Option String) (policy : Option WorkspaceDeliveryPolicy) (n : ℕ)
    (w : World lang Store) :
    Reports x i (fun result _ w' => ∀ t, result = .ok t →
        ∃ updated, Resolved w' i agentId deliveryId updated t)
      (deferDelivery agentId deliveryId availableAt reason policy) n w := by
  have hresolve : ∀ updated channelId n w, Reports x i
      (fun (result : Except WorkspaceDeliveryCapacityError (Option TransitionResult)) _ w' =>
        ∀ t, result = .ok t → ∃ updated, Resolved w' i agentId deliveryId updated t)
      (.ok <$> resolveTransition agentId deliveryId updated channelId) n w := by
    intro updated channelId n w
    refine Discipline.Safe.bind (resolveTransition_reports agentId deliveryId updated _ n w) ?_
    rintro result m w' ⟨-, hresolved⟩ t ht
    obtain rfl : result = t := by simpa using ht
    exact ⟨updated, hresolved⟩
  refine Reports.await (keepsRows_of_isRead rfl)
    fun w₁ _ a₁ (existing : Option DeliveryWithChannel) hexisting => ?_
  cases existing with
  | none =>
    intro t ht
    obtain rfl : none = t := by simpa using ht
    exact ⟨none, fun t ht => by simp at ht⟩
  | some existing =>
    dsimp only
    split_ifs
    · intro t ht
      obtain rfl : some _ = t := by simpa using ht
      exact ⟨none, resolved_existing w₁ a₁ hexisting⟩
    · refine Reports.await ⟨rfl, fun _ _ => rfl⟩ fun w₂ _ a₂ (updated : Option Row) _ => ?_
      split_ifs
      · refine Reports.await (keepsRows_of_isRead rfl) fun w₃ _ a₃ current _ => ?_
        refine Reports.await (keepsRows_of_isRead rfl) fun w₄ _ a₄ now _ => ?_
        split_ifs
        · exact fun t ht => by simp at ht
        · exact hresolve updated existing.channelId n _
      · exact hresolve updated existing.channelId n _

/-! ## Cumulative acknowledgements -/

lemma ackChunks_reports (agentId : AgentId) (upToSeq : ℕ) (chunks : List (List DeliveryWithChannel))
    (n : ℕ) (w : World lang Store) :
    Reports x i (fun ids m _ => ids.count x + n ≤ m) (ackChunks agentId upToSeq chunks) n w := by
  induction chunks generalizing n w with
  | nil => simp [ackChunks]
  | cons chunk rest ih =>
    refine Reports.ackRows fun w' _ now updated _ => Discipline.Safe.bind (ih _ _) ?_
    intro ids m w'' hm
    simp only [Prog.pure_eq_done, Discipline.safe_done, List.count_append]
    omega

lemma ackDeliveriesUpToSeq_reports (nodeId : NodeId) (providerName agentName : String)
    (upToSeq : ℕ) (w : World lang Store) :
    Reports x i (fun result n _ => ∀ ack, result = some ack → ack.ackedDeliveryIds.count x ≤ n)
      (ackDeliveriesUpToSeq nodeId providerName agentName upToSeq) 0 w := by
  refine Reports.await (keepsRows_of_isRead rfl) fun w₁ _ a₁ (agent : Option Agent) _ => ?_
  cases agent with
  | none => exact fun ack h => by simp at h
  | some agent =>
    have hempty : ∀ n w, Reports x i
        (fun (result : Option CumulativeAck) n _ =>
          ∀ ack, result = some ack → ack.ackedDeliveryIds.count x ≤ n)
        (return some ⟨agent.id, agent.name, upToSeq, 0, []⟩) n w := by
      rintro n w ack h
      obtain rfl := Option.some.inj h
      simp
    dsimp only
    split_ifs
    · exact hempty _ _
    · refine Reports.await (keepsRows_of_isRead rfl)
        fun w₂ _ a₂ (pending : List DeliveryWithChannel) _ => ?_
      split_ifs
      · exact Reports.ackRows fun w₃ _ now _ _ => hempty _ _
      · refine Discipline.Safe.bind (ackChunks_reports agent.id upToSeq _ 0 _) ?_
        rintro ids n w' hn ack hack
        obtain rfl := Option.some.inj hack
        exact hn

/-! ## Marking and sweeping -/

/-- The statement moves rows to `target` only. -/
def MovesTo (target : DeliveryStatus) (e : Event lang Store) : Prop :=
  ∀ y, leaves y e = true → ∃ r, e.after.delivery? y = some r ∧ r.status = target

/-- The statements of call `i` have moved the rows `ids`, once each, to `target`, and no others. -/
def Tally (w : World lang Store) (i : ℕ) (target : DeliveryStatus) (ids : List DeliveryId) : Prop :=
  (∀ e ∈ w.eventsOf i, MovesTo target e) ∧
    ∀ y, (w.eventsOf i).countP (leaves y) = ids.count y

lemma Tally.nil {w : World lang Store} (h : w.eventsOf i = []) (target : DeliveryStatus) :
    Tally w i target [] := by
  simp [Tally, h]

/-- A read does not change the tally. -/
lemma Tally.read {w w' : World lang Store} {target : DeliveryStatus} {ids : List DeliveryId}
    (h : Tally w i target ids) (hw : w'.eventsOf i = w.eventsOf i) {q : Stmt}
    (hq : q.isRead = true) (a : q.Answer) : Tally (w'.after machine i q a) i target ids := by
  rw [Tally, World.eventsOf_after_self, hw]
  refine ⟨fun e he => ?_, fun y => ?_⟩
  · rcases List.mem_cons.mp he with rfl | he
    · exact fun y hy => by simp [leaves_read hq] at hy
    · exact h.1 e he
  · rw [List.countP_cons_of_neg (by simp [leaves_read hq])]
    exact h.2 y

/-- An update whose target differs from what it hits adds the rows it hits. -/
lemma Tally.update {w w' : World lang Store} {u : Update} {ids : List DeliveryId}
    (h : Tally w i u.target ids) (hw : w'.eventsOf i = w.eventsOf i) {q : Stmt} (hq : q.keepsRows)
    {a : q.Answer} (hu : q.update a = some u)
    (hne : ∀ r, u.hits w'.store r = true → r.status ≠ u.target) :
    Tally (w'.after machine i q a) i u.target
      ((w'.store.deliveries.select (u.hits w'.store)).map Row.id ++ ids) := by
  have hleaves : ∀ y, leaves y (w'.event machine i q a) = true ↔
      y ∈ (w'.store.deliveries.select (u.hits w'.store)).map Row.id := by
    intro y
    rw [leaves_event hq, List.mem_map]
    constructor
    · rintro ⟨r, u', hr, hu', hits, -⟩
      obtain rfl : u = u' := Option.some.inj (hu.symm.trans hu')
      obtain ⟨hr, hid⟩ := w'.store.delivery?_eq_some.mp hr
      exact ⟨r, Table.mem_select.mpr ⟨hr, hits⟩, hid⟩
    · rintro ⟨r, hr, hid⟩
      obtain ⟨hr, hits⟩ := Table.mem_select.mp hr
      exact ⟨r, u, w'.store.delivery?_eq_some.mpr ⟨hr, hid⟩, hu, hits, hne r hits⟩
  rw [Tally, World.eventsOf_after_self, hw]
  refine ⟨fun e he => ?_, fun y => ?_⟩
  · rcases List.mem_cons.mp he with rfl | he
    · intro y hy
      obtain ⟨r, u', hr, hu', hits, -⟩ := (leaves_event hq w' i a y).mp hy
      obtain rfl : u = u' := Option.some.inj (hu.symm.trans hu')
      refine ⟨u.change r, ?_, u.change_status r⟩
      refine (delivery?_run hq a w'.store y).trans ?_
      rw [hr, Option.map_some, Stmt.effect, hu]
      exact congrArg some (if_pos hits)
    · exact h.1 e he
  · rw [List.count_append]
    by_cases hy : y ∈ (w'.store.deliveries.select (u.hits w'.store)).map Row.id
    · rw [List.countP_cons_of_pos ((hleaves y).mpr hy), h.2,
        List.count_eq_one_of_mem (w'.store.nodup_select_ids _) hy, Nat.add_comm]
    · rw [List.countP_cons_of_neg (fun hl => hy ((hleaves y).mp hl)), h.2,
        List.count_eq_zero_of_not_mem hy, Nat.zero_add]

/-- What is tallied once was moved by exactly one statement. -/
lemma Tally.movedOnce {w : World lang Store} {target : DeliveryStatus} {ids : List DeliveryId}
    (h : Tally w i target ids) (hnodup : ids.Nodup) {y : DeliveryId} (hy : y ∈ ids) :
    MovedOnce w i target y := by
  have hlength : ((w.eventsOf i).filter (leaves y)).length = 1 := by
    rw [← List.countP_eq_length_filter, h.2, List.count_eq_one_of_mem hnodup hy]
  obtain ⟨e, he⟩ := List.length_eq_one_iff.mp hlength
  obtain ⟨hmem, hleaves⟩ := List.mem_filter.mp (he ▸ List.mem_singleton_self e)
  exact ⟨e, he, h.1 e hmem y hleaves⟩

lemma markPages_reports (now : Seconds) (pages : List (List DeliveryId)) {ids : List DeliveryId}
    (n : ℕ) (w : World lang Store) (h : Tally w i .delivered ids) :
    Reports x i (fun result _ w' => Tally w' i .delivered (result ++ ids) ∧
        ∀ y, result.count y ≤ pages.flatten.count y)
      (markPages now pages) n w := by
  induction pages generalizing ids w with
  | nil => exact ⟨h, fun y => by simp⟩
  | cons page rest ih =>
    refine Reports.await ⟨rfl, fun _ _ => rfl⟩
      fun w' hw a (updated : List DeliveryId) hupdated => ?_
    have hupdate := Tally.update (q := .markDeliveredPage page now) (a := a)
      (u := .deliver page now) h hw ⟨rfl, fun _ _ => rfl⟩ rfl fun r hits => by
        have hqueued : r.status = .queued := by simpa using (Bool.and_eq_true_iff.mp hits).2
        simp [hqueued, Update.target]
    obtain rfl : updated = (w'.store.deliveries.select
        ((Update.deliver page now).hits w'.store)).map Row.id := hupdated
    refine Discipline.Safe.bind (ih _ hupdate) ?_
    rintro result m w'' ⟨htally, hcount⟩
    refine ⟨⟨htally.1, fun y => ?_⟩, fun y => ?_⟩
    · rw [htally.2 y]
      simp only [List.count_append]
      omega
    · rw [List.flatten_cons, List.count_append, List.count_append]
      refine Nat.add_le_add ?_ (hcount y)
      -- the page moves each row at most once, and only rows it names
      by_cases hy : y ∈ (w'.store.deliveries.select
          ((Update.deliver page now).hits w'.store)).map Row.id
      · obtain ⟨r, hr, rfl⟩ := List.mem_map.mp hy
        have hpage : r.id ∈ page := by
          simpa using (Bool.and_eq_true_iff.mp (Table.mem_select.mp hr).2).1
        rw [List.count_eq_one_of_mem (w'.store.nodup_select_ids _) hy]
        exact List.one_le_count_iff.mpr hpage
      · rw [List.count_eq_zero_of_not_mem hy]
        exact Nat.zero_le _

lemma markDeliveriesDelivered_reports (deliveryIds : List DeliveryId) (n : ℕ)
    (w : World lang Store) (hfresh : w.eventsOf i = []) :
    Reports x i (fun ids _ w' => ids.Nodup ∧ ∀ y ∈ ids, MovedOnce w' i .delivered y)
      (markDeliveriesDelivered deliveryIds) n w := by
  refine Reports.await (keepsRows_of_isRead rfl) fun w₁ hw₁ a₁ now _ => ?_
  have hstart := (Tally.nil hfresh .delivered).read hw₁ (q := .dateNow) rfl a₁
  refine (markPages_reports _ _ n _ hstart).mono ?_
  rintro ids m w' ⟨htally, hcount⟩
  rw [List.append_nil] at htally
  have hnodup : ids.Nodup := by
    refine List.nodup_iff_count_le_one.mpr fun y => (hcount y).trans ?_
    rw [flatten_pages]
    exact List.nodup_iff_count_le_one.mp (nodup_eraseDups _) y
  exact ⟨hnodup, fun y hy => htally.movedOnce hnodup hy⟩

/-! ## Sweeps -/

/-- The notices of a sweep name rows that were selected and updated. -/
lemma failureNotices_ids (reason error : String) {due : List DueDelivery}
    (updated : List DeliveryId) (hdue : (due.map fun d => d.delivery.id).Nodup) :
    let ids := (failureNotices reason error due updated).map DeliveryFailureNotice.deliveryId
    ids.Nodup ∧ ∀ y ∈ ids, y ∈ updated := by
  have hids : (failureNotices reason error due updated).map DeliveryFailureNotice.deliveryId =
      (due.filter fun row => row.senderAgentId != "" &&
        updated.contains row.delivery.id).map fun d => d.delivery.id := by
    rw [failureNotices, List.map_map]
    rfl
  dsimp only
  rw [hids]
  refine ⟨hdue.sublist (List.filter_sublist.map _), fun y hy => ?_⟩
  obtain ⟨d, hd, rfl⟩ := List.mem_map.mp hy
  simpa using (Bool.and_eq_true_iff.mp (List.mem_filter.mp hd).2).2

/-- A sweep that tallied what it updated reports each notice for a row it moved. -/
lemma Tally.notices {w : World lang Store} {target : DeliveryStatus} {updated : List DeliveryId}
    (h : Tally w i target updated) (hupdated : updated.Nodup) {due : List DueDelivery}
    (hdue : (due.map fun d => d.delivery.id).Nodup) (reason error : String) :
    let ids := (failureNotices reason error due updated).map DeliveryFailureNotice.deliveryId
    ids.Nodup ∧ ∀ y ∈ ids, MovedOnce w i target y := by
  obtain ⟨hnodup, hsub⟩ := failureNotices_ids reason error updated hdue
  exact ⟨hnodup, fun y hy => h.movedOnce hupdated (hsub y hy)⟩

end Safe

namespace Store

variable (s : Store)

lemma dueDelivery_id {r : Row} {d : DueDelivery} (h : s.dueDelivery r = some d) :
    d.delivery.id = r.id := by
  obtain ⟨m, -, h⟩ := Option.bind_eq_some_iff.mp h
  obtain ⟨a, -, h⟩ := Option.bind_eq_some_iff.mp h
  rw [← Option.some.inj h]

lemma nodup_dueDeliveries (now : Seconds) :
    ((s.dueDeliveries now).map fun d => d.delivery.id).Nodup := by
  rw [dueDeliveries, ((List.perm_insertionSort _ _).map _).nodup_iff]
  exact (s.nodup_select_ids _).sublist (map_filterMap_sublist (fun _ _ => s.dueDelivery_id) _)

lemma nodup_unreachableDeliveries (staleBefore : Seconds) :
    ((s.unreachableDeliveries staleBefore).map fun d => d.delivery.id).Nodup := by
  rw [unreachableDeliveries, List.map_map, ((List.perm_insertionSort _ _).map _).nodup_iff]
  refine (s.nodup_select_ids _).sublist (map_filterMap_sublist ?_ _)
  intro r nd h
  obtain ⟨n, -, h⟩ := Option.bind_eq_some_iff.mp h
  obtain ⟨d, hd, h⟩ := Option.bind_eq_some_iff.mp h
  rw [← Option.some.inj h]
  exact s.dueDelivery_id hd

end Store

lemma nodup_sweepPage (oneWorkspace : Bool) (share : ℕ) {due : List DueDelivery}
    (h : (due.map fun d => d.delivery.id).Nodup) :
    ((sweepPage oneWorkspace share due).map fun d => d.delivery.id).Nodup :=
  h.sublist ((List.take_sublist _ _).map _)

section Sweeps

variable {x : DeliveryId} {i : ℕ}

/-- A row a sweep's update hits is not dead-lettered. -/
lemma ne_deadLettered_of_expirable {ids : List DeliveryId} {r : Row}
    (h : Store.expirable ids r = true) : r.status ≠ .deadLettered := by
  intro hdead
  simp [Store.expirable, hdead, DeliveryStatus.isSettled] at h

/-- What a sweep reports: distinct notices, each for a row it dead-lettered. -/
def Swept (w : World lang Store) (i : ℕ) (batch : ExpiredDeliveryBatch) : Prop :=
  (batch.notices.map DeliveryFailureNotice.deliveryId).Nodup ∧
    ∀ y ∈ batch.notices.map DeliveryFailureNotice.deliveryId, MovedOnce w i .deadLettered y

lemma swept_nothing (w : World lang Store) : Swept w i ⟨0, []⟩ := by simp [Swept]

lemma expireDueDeliveryBatch_reports (oneWorkspace : Bool) (now : Millis) (n : ℕ)
    (w : World lang Store) (hfresh : w.eventsOf i = []) :
    Reports x i (fun batch _ w' => Swept w' i batch) (expireDueDeliveryBatch oneWorkspace now) n
      w := by
  refine Reports.await (keepsRows_of_isRead rfl)
    fun w₁ hw₁ share (due : List DueDelivery) hdue => ?_
  obtain rfl : due = sweepPage oneWorkspace share (w₁.store.dueDeliveries (toSeconds now)) := hdue
  have hread := (Tally.nil hfresh .deadLettered).read hw₁
    (q := .dueDeliveries oneWorkspace (toSeconds now)) rfl share
  split_ifs
  · exact swept_nothing _
  · refine Reports.await ⟨rfl, fun _ _ => rfl⟩
      fun w₂ hw₂ a₂ (updated : List DeliveryId) hupdated => ?_
    have hupdate := Tally.update (q := .expireUpdate _ now) (a := a₂) (u := .expire _ now) hread hw₂
      ⟨rfl, fun _ _ => rfl⟩ rfl fun r hits => ne_deadLettered_of_expirable hits
    rw [List.append_nil] at hupdate
    obtain rfl := hupdated
    exact hupdate.notices (w₂.store.nodup_select_ids _)
      (nodup_sweepPage _ _ (w₁.store.nodup_dueDeliveries _)) _ _

lemma deadLetterUnreachableDeliveryBatch_reports (oneWorkspace : Bool)
    (offlineGraceMs now : Millis) (n : ℕ) (w : World lang Store) (hfresh : w.eventsOf i = []) :
    Reports x i (fun batch _ w' => Swept w' i batch)
      (deadLetterUnreachableDeliveryBatch oneWorkspace offlineGraceMs now) n w := by
  refine Reports.await (keepsRows_of_isRead rfl) fun w₁ hw₁ a₁ (authority : Bool) _ => ?_
  have hread := (Tally.nil hfresh .deadLettered).read hw₁ (q := .livenessAuthority) rfl a₁
  cases authority with
  | true => exact swept_nothing _
  | false =>
    refine Reports.await (keepsRows_of_isRead rfl)
      fun w₂ hw₂ share (due : List DueDelivery) hdue => ?_
    obtain rfl : due = sweepPage oneWorkspace share
      (w₂.store.unreachableDeliveries (unreachableBefore offlineGraceMs now)) := hdue
    have hread₂ := hread.read hw₂
      (q := .unreachableDeliveries oneWorkspace (unreachableBefore offlineGraceMs now)) rfl share
    split_ifs
    · exact swept_nothing _
    · refine Reports.await ⟨rfl, fun _ _ => rfl⟩
        fun w₃ hw₃ a₃ (updated : List DeliveryId) hupdated => ?_
      have hupdate := Tally.update (q := .unreachableUpdate _ _ now) (a := a₃)
        (u := .unreachable _ _ now) hread₂ hw₃ ⟨rfl, fun _ _ => rfl⟩ rfl fun r hits =>
          ne_deadLettered_of_expirable (Bool.and_eq_true_iff.mp hits).1
      rw [List.append_nil] at hupdate
      obtain rfl := hupdated
      exact hupdate.notices (w₃.store.nodup_select_ids _)
        (nodup_sweepPage _ _ (w₂.store.nodup_unreachableDeliveries _)) _ _

end Sweeps

/-! ## Every run -/

/-- What a call reports when it returns, with its credits for the acknowledgement of `x`. -/
def Reported (x : DeliveryId) (c : Call) (i : ℕ) (a : c.Result) (n : ℕ) (w : World lang Store) :
    Prop :=
  ackReports x c a ≤ n ∧
    ((movedIds c a).Nodup ∧ ∀ y ∈ movedIds c a, MovedOnce w i (movedTo c) y) ∧
    ∀ agentId deliveryId d, reportedTransition c a = some (agentId, deliveryId, ⟨d, false⟩) →
      AsStored w i agentId deliveryId d

lemma body_reports (x : DeliveryId) {c : Call} (hc : c.isTransition = true) {i : ℕ}
    {w : World lang Store} (hfresh : w.eventsOf i = []) :
    Reports x i (Reported x c i) c.body 0 w := by
  cases c with
  | ackDelivery agentId deliveryId =>
    refine (ackDelivery_reports agentId deliveryId w).mono ?_
    rintro result n w' ⟨updated, hcount, hresolved⟩
    refine ⟨?_, ⟨by simp [movedIds], by simp [movedIds]⟩, fun agentId' deliveryId' d hd => ?_⟩
    · match result, hresolved with
      | some ⟨delivery, true⟩, hresolved =>
        obtain ⟨row, channelId, hrow, rfl⟩ := (hresolved _ rfl).1 rfl
        simp only [ackReports]
        split_ifs with hid
        · have hmem : x ∈ updated.map Row.id :=
            List.mem_map.mpr ⟨row, List.mem_of_mem_head? hrow, hid⟩
          exact (List.one_le_count_iff.mpr hmem).trans hcount
        · exact Nat.zero_le _
      | some ⟨delivery, false⟩, _ => exact Nat.zero_le _
      | none, _ => exact Nat.zero_le _
    · obtain ⟨t, rfl, ht⟩ := Option.map_eq_some_iff.mp hd
      obtain ⟨rfl, rfl, rfl⟩ : agentId = agentId' ∧ deliveryId = deliveryId' ∧ t = ⟨d, false⟩ := by
        simpa using ht
      exact (hresolved _ rfl).2 rfl
  | failDelivery agentId deliveryId error retryable =>
    refine (failDelivery_reports agentId deliveryId error retryable 0 w).mono ?_
    rintro result n w' ⟨updated, hresolved⟩
    refine ⟨Nat.zero_le _, ⟨by simp [movedIds], by simp [movedIds]⟩,
      fun agentId' deliveryId' d hd => ?_⟩
    obtain ⟨t, rfl, ht⟩ := Option.map_eq_some_iff.mp hd
    obtain ⟨rfl, rfl, rfl⟩ : agentId = agentId' ∧ deliveryId = deliveryId' ∧ t = ⟨d, false⟩ := by
      simpa using ht
    exact (hresolved _ rfl).2 rfl
  | deferDelivery agentId deliveryId availableAt reason policy =>
    refine (deferDelivery_reports agentId deliveryId availableAt reason policy 0 w).mono ?_
    rintro result n w' hresult
    refine ⟨Nat.zero_le _, ⟨by simp [movedIds], by simp [movedIds]⟩,
      fun agentId' deliveryId' d hd => ?_⟩
    match result, hresult with
    | .error e, _ => simp [reportedTransition] at hd
    | .ok result, hresult =>
      obtain ⟨updated, hresolved⟩ := hresult _ rfl
      obtain ⟨t, rfl, ht⟩ := Option.map_eq_some_iff.mp hd
      obtain ⟨rfl, rfl, rfl⟩ : agentId = agentId' ∧ deliveryId = deliveryId' ∧ t = ⟨d, false⟩ := by
        simpa using ht
      exact (hresolved _ rfl).2 rfl
  | ackDeliveriesUpToSeq nodeId providerName agentName upToSeq =>
    refine (ackDeliveriesUpToSeq_reports nodeId providerName agentName upToSeq w).mono ?_
    rintro result n w' hresult
    refine ⟨?_, ⟨by simp [movedIds], by simp [movedIds]⟩, by simp [reportedTransition]⟩
    match result, hresult with
    | none, _ => exact Nat.zero_le _
    | some ack, hresult => exact hresult ack rfl
  | markDeliveriesDelivered deliveryIds =>
    refine (markDeliveriesDelivered_reports deliveryIds 0 w hfresh).mono ?_
    exact fun ids n w' hmoved => ⟨Nat.zero_le _, hmoved, by simp [reportedTransition]⟩
  | markRead messageId agentId =>
    refine (Discipline.Safe.of_issues (body_keepsRows hc) ?_ 0 w).mono ?_
    · intro w' m q hq hI _ a
      exact ⟨fun j hj => World.eventsOf_after_ne machine w' i q a hj, reportDiscipline_inv hq hI i a⟩
    · rintro result n w' -
      exact ⟨Nat.zero_le _, ⟨by simp [movedIds], by simp [movedIds]⟩, by simp [reportedTransition]⟩
  | expireDueDeliveryBatch oneWorkspace now =>
    refine (expireDueDeliveryBatch_reports oneWorkspace now 0 w hfresh).mono ?_
    exact fun batch n w' hswept => ⟨Nat.zero_le _, hswept, by simp [reportedTransition]⟩
  | deadLetterUnreachableDeliveryBatch oneWorkspace offlineGraceMs now =>
    refine (deadLetterUnreachableDeliveryBatch_reports oneWorkspace offlineGraceMs now 0 w
      hfresh).mono ?_
    exact fun batch n w' hswept => ⟨Nat.zero_le _, hswept, by simp [reportedTransition]⟩
  | _ => simp [Call.isTransition] at hc

lemma reportDiscipline_keeps (x : DeliveryId) :
    (reportDiscipline x).Keeps openService transitionsOnly (Reported x) where
  init _ _ := .inl rfl
  drift_inv d w n h := by
    refine h.imp_right fun ⟨hn, r, hr, hacked⟩ => ⟨hn, r, ?_, hacked⟩
    cases d <;> exact hr
  drift_rely _ _ _ := rfl
  call _ hc i w _ hfresh _ := body_reports x hc (World.eventsOf_eq_nil w i hfresh)

/-- An acked or dead-lettered row is stored unchanged from then on. -/
lemma mem_of_reflTransGen {g g' : Config lang Store Call.Result}
    (h : openService.Reachable transitionsOnly g)
    (hrun : Relation.ReflTransGen (openService.Step transitionsOnly) g g') {r : Row}
    (hr : r ∈ g.world.store.deliveries) (hterm : r.status.isTerminal = true) :
    r ∈ g'.world.store.deliveries := by
  refine System.stable_of_statements
    (R := fun w w' => r ∈ w.store.deliveries → r ∈ w'.store.deliveries) (P := Stmt.keepsRows)
    (fun _ h => h) (fun _ _ _ h h' hr => h' (h hr)) (fun d w hr => ?_) (fun c hc => ?_)
    (fun w i q hq _ a hr => ?_) h hrun hr
  · cases d <;> exact hr
  · exact body_keepsRows hc
  · exact mem_run_of_isTerminal hq a hr hterm

/-- **The delivery lifecycle is sound** in every run of its eight functions: settled rows are
final, acknowledgements are reported at most once, every reported move is one transition, and
what is reported as unchanged is what is stored. -/
theorem lifecycleSound {g : Config lang Store Call.Result}
    (h : openService.Reachable transitionsOnly g) : LifecycleSound g where
  settled _ hrun _ hr hterm := mem_of_reflTransGen h hrun hr hterm
  ackedOnce x := by
    obtain ⟨n, hI, hle⟩ :=
      (reportDiscipline_keeps x).reported_le (fun _ _ _ _ _ hq => hq.1) h
    rcases hI with rfl | ⟨rfl, -⟩
    · exact hle.trans (Nat.zero_le _)
    · exact hle
  moved i c a hi := by
    obtain ⟨n, rest, w₀, hrely, ⟨-, hmoved, -⟩, -⟩ := (reportDiscipline_keeps "").returned h hi
    have hevents : g.world.eventsOf i = w₀.eventsOf i := hrely
    simpa only [MovedOnce, hevents] using hmoved
  unchanged i c a agentId deliveryId d hi hd := by
    obtain ⟨n, rest, w₀, hrely, ⟨-, -, hunchanged⟩, -⟩ :=
      (reportDiscipline_keeps "").returned h hi
    have hevents : g.world.eventsOf i = w₀.eventsOf i := hrely
    simpa only [AsStored, hevents] using hunchanged agentId deliveryId d hd

/-- Two acknowledgements of one delivery; both have read it before either acts. -/
def twoAcks : List openService.Move :=
  [.start (.ackDelivery "agt" "del_1_agt"), .start (.ackDelivery "agt" "del_1_agt"),
    .exec 0 (steady 1000000 true), .exec 1 (steady 1000000 true),
    .exec 0 (steady 1000000 true), .exec 1 (steady 1000000 true), .exec 1 (steady 1000000 true)]

/-- One of them reports the acknowledgement. -/
theorem lifecycleSound_twoAcks :
    let s := (run (.writeMessage (some ⟨"1", "dmch", "sender", none⟩) (directWrite "1" 100 none)) ()
      (oneAgent 0)).2
    (openService.runFrom s twoAcks).reported (ackReports "del_1_agt") = 1 ∧
      LifecycleSound (openService.runFrom s twoAcks) :=
  ⟨by decide +kernel, lifecycleSound (openService.runFrom_reachable_of transitionsOnly trivial
    ⟨rfl, rfl, fun _ _ _ _ => trivial, fun _ _ _ _ => trivial, fun _ _ _ _ => trivial,
      fun _ _ _ _ => trivial, fun _ _ _ _ => trivial, trivial⟩)⟩

end Delivery
