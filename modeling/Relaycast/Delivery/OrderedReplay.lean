import Relaycast.Delivery.Service

/-!
# Ordered replay

A replay drains one mailbox in pages, and between any two of its awaits the mailbox may be acked,
handed off, expired or written to.  What it emits for one agent is ordered all the same: the
cursor only moves forward, a row keeps its sequence from the page query to its hydration, and the
first refused send or lost readiness ends the drain of that agent.

The property is stated of the trace of the call, so it holds of a replay that is still running or
has crashed as well.  Retention, which could delete a delivery and let its id be used again, is not
among the calls considered.
-/

namespace Delivery

open Relational Interleaving

/-! ## What a replay does for an agent -/

/-- The statement sends to the agent, asks whether it is ready, or reads its high-water mark. -/
def concerns (agentId : AgentId) : Stmt → Bool
  | .sendToProvider _ _ frame => frame.agentId == agentId
  | .providerReady _ _ agentId' => agentId' == agentId
  | .highWater agentId' => agentId' == agentId
  | _ => false

/-- A send to the agent failed, or the agent was found not to be ready. -/
def refuses (agentId : AgentId) : Event lang Store → Bool
  | ⟨_, .sendToProvider _ _ frame, _, (sent : Bool), _, _⟩ => frame.agentId == agentId && !sent
  | ⟨_, .providerReady _ _ agentId', _, (isReady : Bool), _, _⟩ => agentId' == agentId && !isReady
  | _ => false

/-- The recheck before a send found the row: active, unexpired, and past the ack cursor of its
agent, who is still at the node. -/
def Rechecked (frame : DeliverFrame) : Event lang Store → Prop
  | ⟨_, .replayCurrent nodeId recipient deliveryId, (now : Millis), (current : Bool), before, _⟩ =>
    current = true ∧ deliveryId = frame.deliveryId ∧
      ∃ r ∈ before.deliveries, ∃ a ∈ before.agents,
        r.id = frame.deliveryId ∧ r.agentId = frame.agentId ∧ r.seq = frame.seq ∧
          r.status.isActive = true ∧ r.unexpired (toSeconds now) = true ∧
            a.id = frame.agentId ∧ a.locationNodeId = some nodeId ∧
              a.providerName = recipient.providerName ∧ a.deliveryAckSeq < frame.seq
  | _ => False

/-- What holds when a frame is emitted, of what the call has executed before (latest first). -/
structure Emittable (frame : DeliverFrame) (past : List (Event lang Store)) : Prop where
  /-- All earlier frames for the agent have lower sequences. -/
  increasing : ∀ e ∈ past, ∀ nodeId providerName frame',
    e.stmt = Stmt.sendToProvider nodeId providerName frame' → frame'.agentId = frame.agentId →
      frame'.seq < frame.seq
  /-- No earlier send to the agent has failed, and it was ready whenever it was asked. -/
  uninterrupted : ∀ e ∈ past, refuses frame.agentId e = false
  /-- The row was rechecked last, apart from the readiness check in between. -/
  rechecked : ∃ ready current rest, past = ready :: current :: rest ∧
    (∃ nodeId providerName, ready.stmt = Stmt.providerReady nodeId providerName frame.agentId) ∧
      Rechecked frame current
  /-- The sequence is at most the mark that was read at the start of the drain. -/
  belowHighWater : ∃ mark, frame.seq ≤ mark ∧ (∃ e ∈ past, e.stmt = Stmt.highWater frame.agentId) ∧
    ∀ e ∈ past, e.stmt = Stmt.highWater frame.agentId →
      e.before.highWater frame.agentId = some mark

/-- Every frame was emittable when it was emitted. -/
def OrderedReplay (es : List (Event lang Store)) : Prop :=
  ∀ e past, (e :: past) <:+ es → ∀ nodeId providerName frame,
    e.stmt = Stmt.sendToProvider nodeId providerName frame → Emittable frame past

/-- The runs without retention. -/
def withoutRetention : Regime lang Store Call where
  calls
    | .pruneDeliveries _ | .pruneMessages _ | .recoverExpired _ _ => False
    | _ => True
  permits _ _ _ := True
  crashes := True

lemma orderedReplay_nil : OrderedReplay [] := by
  intro e past h
  simp at h

lemma OrderedReplay.cons {e : Event lang Store} {es : List (Event lang Store)}
    (h : OrderedReplay es)
    (he : ∀ nodeId providerName frame,
      e.stmt = Stmt.sendToProvider nodeId providerName frame → Emittable frame es) :
    OrderedReplay (e :: es) := by
  intro e' past hsuffix nodeId providerName frame hstmt
  rcases List.suffix_cons_iff.mp hsuffix with heq | hsuffix
  · obtain ⟨rfl, rfl⟩ := List.cons.inj heq
    exact he nodeId providerName frame hstmt
  · exact h e' past hsuffix nodeId providerName frame hstmt

/-! ## The discipline -/

/-- Every stored delivery is still stored, under the same key. -/
def RowsStay (s s' : Store) : Prop := ∀ r ∈ s.deliveries, ∃ r' ∈ s'.deliveries, key r' = key r

lemma RowsStay.trans {s₁ s₂ s₃ : Store} (h : RowsStay s₁ s₂) (h' : RowsStay s₂ s₃) :
    RowsStay s₁ s₃ := by
  intro r hr
  obtain ⟨r₂, hr₂, hkey₂⟩ := h r hr
  obtain ⟨r₃, hr₃, hkey₃⟩ := h' r₂ hr₂
  exact ⟨r₃, hr₃, hkey₃.trans hkey₂⟩

/-- The statement deletes no delivery. -/
def Stmt.deletesNothing (q : Stmt) : Prop := ∀ s r, q.removes s r = false

lemma rowsStay_run {q : Stmt} (hq : q.deletesNothing) (a : q.Answer) (s : Store) :
    RowsStay s (run q a s).2 := by
  intro r hr
  cases hwrite : q.isMessageWrite with
  | false =>
    refine ⟨q.effect a s r, ?_, q.key_effect a s r⟩
    rw [Table.mem_def, run_rows q a s hwrite]
    exact List.mem_map_of_mem (List.mem_filter.mpr ⟨hr, by simp [hq s r]⟩)
  | true =>
    cases q with
    | writeMessage m w =>
      refine ⟨r, ?_, rfl⟩
      rcases run_writeMessage s m w with ⟨s', hok, hrun⟩ | ⟨e, -, hrun⟩
      · have hstore : (run (.writeMessage m w) a s).2 = s' := congrArg Prod.snd hrun
        obtain ⟨-, -, added, -, hins⟩ := writeMessage_ok hok
        rw [hstore, Table.mem_def, hins.rows]
        exact List.mem_append_left _ hr
      · have hstore : (run (.writeMessage m w) a s).2 = s := congrArg Prod.snd hrun
        rw [hstore]
        exact hr
    | _ => simp [Stmt.isMessageWrite] at hwrite

/-- While call `i` is between two statements the others leave its history and the keys of the rows
alone.  Every replay that has run so far was ordered. -/
def replayDiscipline : Discipline lang Store Unit where
  rely i w w' := w'.eventsOf i = w.eventsOf i ∧ RowsStay w.store w'.store
  refl _ _ := ⟨rfl, fun r hr => ⟨r, hr, rfl⟩⟩
  trans _ _ _ _ h h' := ⟨h'.1.trans h.1, h.2.trans h'.2⟩
  inv w _ := ∀ j, OrderedReplay (w.eventsOf j)

lemma replayDiscipline_inv {w : World lang Store} (h : replayDiscipline.inv w ()) (i : ℕ) {q : Stmt}
    (hsend : ∀ nodeId providerName frame, q = .sendToProvider nodeId providerName frame →
      Emittable frame (w.eventsOf i)) (a : q.Answer) :
    replayDiscipline.inv (w.after machine i q a) () := by
  intro j
  by_cases hj : j = i
  · subst hj
    rw [World.eventsOf_after_self]
    exact (h j).cons hsend
  · rw [World.eventsOf_after_ne machine w i q a hj]
    exact h j

section Safe

variable {i : ℕ} {α : Type} {Q : α → Unit → World lang Store → Prop}

/-- Safe to run as call `i` of a replay. -/
abbrev Replays (i : ℕ) (Q : α → World lang Store → Prop) (p : Prog lang α) (w : World lang Store) :
    Prop :=
  replayDiscipline.Safe machine withoutRetention.permits i (fun a _ w => Q a w) p () w

/-- The rule of a statement that deletes nothing: a frame it sends has to be emittable. -/
lemma Replays.await {Q : α → World lang Store → Prop} {q : Stmt} {f : q.Reply → Prog lang α}
    {w : World lang Store} (hq : q.deletesNothing)
    (hsend : ∀ nodeId providerName frame, q = .sendToProvider nodeId providerName frame →
      Emittable frame (w.eventsOf i))
    (h : ∀ w' : World lang Store, w'.eventsOf i = w.eventsOf i → RowsStay w.store w'.store →
      ∀ a : q.Answer, ∀ r, r = (run q a w'.store).1 → Replays i Q (f r) (w'.after machine i q a)) :
    Replays i Q (Delivery.await q >>= f) w := by
  refine Discipline.Safe.ask_bind fun w' rest hw hI _ a => ⟨fun j hj => ⟨?_, ?_⟩, (), ?_,
    h w' hw.1 hw.2 a⟩
  · exact World.eventsOf_after_ne machine w' i q a hj
  · exact rowsStay_run hq a w'.store
  · exact replayDiscipline_inv hI i (fun nodeId providerName frame hstmt => by
      rw [hw.1]
      exact hsend nodeId providerName frame hstmt) a

/-- The statement concerns no agent and deletes nothing. -/
def Stmt.isQuiet (q : Stmt) : Prop := q.deletesNothing ∧ ∀ agentId, concerns agentId q = false

lemma not_send_of_isQuiet {q : Stmt} (hq : q.isQuiet) (nodeId : NodeId) (providerName : String)
    (frame : DeliverFrame) : q ≠ .sendToProvider nodeId providerName frame := by
  rintro rfl
  simpa [concerns] using hq.2 frame.agentId

/-- The rule of a quiet statement, for a property of the history that quiet statements keep. -/
lemma Replays.awaitQuiet {Q : α → World lang Store → Prop} {q : Stmt} {f : q.Reply → Prog lang α}
    {w : World lang Store} (hq : q.isQuiet)
    (h : ∀ w' : World lang Store, w'.eventsOf i = w.eventsOf i → RowsStay w.store w'.store →
      ∀ a : q.Answer, ∀ r, r = (run q a w'.store).1 → Replays i Q (f r) (w'.after machine i q a)) :
    Replays i Q (Delivery.await q >>= f) w :=
  Replays.await hq.1 (fun _ _ _ hstmt => absurd hstmt (not_send_of_isQuiet hq _ _ _)) h

/-- A program of quiet statements keeps what each of them keeps. -/
lemma Replays.of_issues {p : Prog lang α} (hp : p.Issues Stmt.isQuiet)
    {K : List (Event lang Store) → Prop} (hK : ∀ e es, e.stmt.isQuiet → K es → K (e :: es))
    {w : World lang Store} (h : K (w.eventsOf i)) :
    Replays i (fun _ w' => K (w'.eventsOf i) ∧ RowsStay w.store w'.store) p w := by
  have hall : ∀ w₁ : World lang Store, K (w₁.eventsOf i) → RowsStay w.store w₁.store →
      Replays i (fun _ w' => K (w'.eventsOf i) ∧ RowsStay w.store w'.store) p w₁ := by
    clear h
    induction p with
    | done a => exact fun w₁ hK₁ hrows₁ => ⟨hK₁, hrows₁⟩
    | stmt q k ih =>
      intro w₁ hK₁ hrows₁
      refine Replays.awaitQuiet hp.1 fun w' hw' hrows a r _ => ih r (hp.2 r) _ ?_ ?_
      · rw [World.eventsOf_after_self, hw']
        exact hK _ _ hp.1 hK₁
      · exact (hrows₁.trans hrows).trans (rowsStay_run hp.1.1 a w'.store)
  exact hall w h fun r hr => ⟨r, hr, rfl⟩

end Safe

/-! ## The drain of one agent -/

/-- Nothing has been done for the agent yet. -/
def Untouched (agentId : AgentId) (es : List (Event lang Store)) : Prop :=
  ∀ e ∈ es, concerns agentId e.stmt = false

/-- Nothing has been done for the agents `later`. -/
def Later (later : List AgentId) (es : List (Event lang Store)) : Prop :=
  ∀ b ∈ later, Untouched b es

lemma Later.cons {later : List AgentId} {e : Event lang Store} {es : List (Event lang Store)}
    (h : Later later es) (he : ∀ b ∈ later, concerns b e.stmt = false) : Later later (e :: es) := by
  intro b hb e' he'
  rcases List.mem_cons.mp he' with rfl | he'
  · exact he b hb
  · exact h b hb e' he'

/-- The agent's mailbox is being drained: what was sent is up to the cursor, nothing was refused,
and the mark was read once.  The agents `later` still wait. -/
structure Draining (agentId : AgentId) (later : List AgentId) (mark cursor : ℕ)
    (es : List (Event lang Store)) : Prop where
  sent : ∀ e ∈ es, ∀ nodeId providerName frame,
    e.stmt = Stmt.sendToProvider nodeId providerName frame → frame.agentId = agentId →
      frame.seq ≤ cursor
  accepted : ∀ e ∈ es, refuses agentId e = false
  markRead : ∃ e ∈ es, e.stmt = Stmt.highWater agentId
  mark_eq : ∀ e ∈ es, e.stmt = Stmt.highWater agentId → e.before.highWater agentId = some mark
  waiting : Later later es

lemma not_refuses_of_not_concerns {agentId : AgentId} {e : Event lang Store}
    (h : concerns agentId e.stmt = false) : refuses agentId e = false := by
  obtain ⟨caller, q, a, r, before, after⟩ := e
  cases q <;> simp_all [concerns, refuses]

lemma Draining.mono {agentId : AgentId} {later : List AgentId} {mark cursor cursor' : ℕ}
    {es : List (Event lang Store)} (h : Draining agentId later mark cursor es)
    (hle : cursor ≤ cursor') : Draining agentId later mark cursor' es :=
  { h with sent := fun e he nodeId providerName frame hstmt hid =>
      (h.sent e he nodeId providerName frame hstmt hid).trans hle }

/-- A statement that is not about the high-water mark of anyone, not refused, and sends at most up
to the new cursor. -/
lemma Draining.cons {agentId : AgentId} {later : List AgentId} {mark cursor : ℕ}
    {e : Event lang Store} {es : List (Event lang Store)}
    (h : Draining agentId later mark cursor es)
    (hsent : ∀ nodeId providerName frame, e.stmt = Stmt.sendToProvider nodeId providerName frame →
      frame.agentId = agentId → frame.seq ≤ cursor)
    (haccepted : refuses agentId e = false) (hmark : e.stmt ≠ Stmt.highWater agentId)
    (hwaiting : ∀ b ∈ later, concerns b e.stmt = false) :
    Draining agentId later mark cursor (e :: es) where
  sent e' he' nodeId providerName frame hstmt hid := by
    rcases List.mem_cons.mp he' with rfl | he'
    · exact hsent nodeId providerName frame hstmt hid
    · exact h.sent e' he' nodeId providerName frame hstmt hid
  accepted e' he' := by
    rcases List.mem_cons.mp he' with rfl | he'
    · exact haccepted
    · exact h.accepted e' he'
  markRead := by
    obtain ⟨e', he', hstmt⟩ := h.markRead
    exact ⟨e', List.mem_cons_of_mem _ he', hstmt⟩
  mark_eq e' he' hstmt := by
    rcases List.mem_cons.mp he' with rfl | he'
    · exact absurd hstmt hmark
    · exact h.mark_eq e' he' hstmt
  waiting := h.waiting.cons hwaiting

/-- A quiet statement does not change the state of the drain. -/
lemma Draining.quiet {agentId : AgentId} {later : List AgentId} {mark cursor : ℕ}
    {e : Event lang Store} {es : List (Event lang Store)} (he : e.stmt.isQuiet)
    (h : Draining agentId later mark cursor es) : Draining agentId later mark cursor (e :: es) := by
  refine h.cons (fun _ _ _ hstmt _ => absurd hstmt (not_send_of_isQuiet he _ _ _))
    (not_refuses_of_not_concerns (he.2 agentId)) (fun hstmt => ?_) fun b _ => he.2 b
  have hfalse := he.2 agentId
  rw [hstmt] at hfalse
  simp [concerns] at hfalse

/-! ## What the reads of a replay find -/

namespace Store

variable {s : Store}

/-- The agent a recheck finds. -/
lemma replayable_eq_some {nodeId : NodeId} {recipient : Recipient} {now : Seconds} {r : Row}
    {a : Agent} (h : s.replayable nodeId recipient now r = some a) :
    a ∈ s.agents ∧ a.id = r.agentId ∧ a.id = recipient.id ∧ a.locationNodeId = some nodeId ∧
      a.providerName = recipient.providerName ∧ a.deliveryAckSeq < r.seq ∧
        r.status.isActive = true ∧ r.unexpired now = true := by
  have hmem : a ∈ s.agents := List.mem_of_find?_eq_some h
  have hcond := List.find?_some h
  simp only [Bool.and_eq_true, beq_iff_eq, decide_eq_true_eq] at hcond
  obtain ⟨⟨⟨⟨⟨⟨⟨hid, hrecipient⟩, -⟩, hnode⟩, hprovider⟩, hseq⟩, hactive⟩, hunexpired⟩ := hcond
  exact ⟨hmem, hid, hrecipient, hnode, hprovider, hseq, hactive, hunexpired⟩

/-- A page holds active rows of the agent between the cursor and the mark. -/
lemma mem_replayPage {agentId : AgentId} {cursor mark : ℕ} {x : DeliveryId × ℕ}
    (h : x ∈ s.replayPage agentId cursor mark) :
    ∃ r ∈ s.deliveries, r.id = x.1 ∧ r.seq = x.2 ∧ r.agentId = agentId ∧ cursor < r.seq ∧
      r.seq ≤ mark := by
  have hmem := (List.mem_insertionSort _).mp (List.mem_of_mem_take h)
  obtain ⟨r, hr, rfl⟩ := List.mem_map.mp hmem
  obtain ⟨hr, hcond⟩ := Table.mem_select.mp hr
  simp only [Bool.and_eq_true, beq_iff_eq, decide_eq_true_eq] at hcond
  exact ⟨r, hr, rfl, rfl, hcond.1.1.1, hcond.1.2, hcond.2⟩

/-- A page is in sequence order. -/
lemma replayPage_pairwise (agentId : AgentId) (cursor mark : ℕ) :
    (s.replayPage agentId cursor mark).Pairwise fun x y => x.2 ≤ y.2 := by
  have htrans : IsTrans (DeliveryId × ℕ) fun x y => x.2 ≤ y.2 := ⟨fun _ _ _ h h' => h.trans h'⟩
  have htotal : Std.Total fun x y : DeliveryId × ℕ => x.2 ≤ y.2 := ⟨fun x y => le_total x.2 y.2⟩
  exact (List.pairwise_insertionSort _ _).sublist (List.take_sublist _ _)

/-- The cursor a page leaves bounds its sequences. -/
lemma le_getLast_replayPage {agentId : AgentId} {cursor mark : ℕ} {last : DeliveryId × ℕ}
    (hlast : (s.replayPage agentId cursor mark).getLast? = some last) {x : DeliveryId × ℕ}
    (hx : x ∈ s.replayPage agentId cursor mark) : x.2 ≤ last.2 := by
  obtain ⟨init, hinit⟩ := List.getLast?_eq_some_iff.mp hlast
  have hpairwise := replayPage_pairwise (s := s) agentId cursor mark
  rw [hinit] at hpairwise hx
  rcases List.mem_append.mp hx with hx | hx
  · exact (List.pairwise_append.mp hpairwise).2.2 x hx last (by simp)
  · obtain rfl : x = last := by simpa using hx
    exact le_rfl

/-- A hydrated row is stored, was asked for, and passes the recheck. -/
lemma mem_hydratePage {nodeId : NodeId} {recipient : Recipient} {ids : List DeliveryId}
    {now : Seconds} {row : PendingDelivery} (h : row ∈ s.hydratePage nodeId recipient ids now) :
    row.delivery ∈ s.deliveries ∧ row.delivery.id ∈ ids ∧
      row.delivery.agentId = recipient.id := by
  obtain ⟨r, hr, hrow⟩ := List.mem_filterMap.mp ((List.mem_insertionSort _).mp h)
  obtain ⟨a, ha, hrow⟩ := Option.bind_eq_some_iff.mp hrow
  obtain ⟨m, -, hrow⟩ := Option.bind_eq_some_iff.mp hrow
  obtain rfl := Option.some.inj hrow
  obtain ⟨hr, hids⟩ := Table.mem_select.mp hr
  obtain ⟨-, hid, hrecipient, -⟩ := replayable_eq_some ha
  exact ⟨hr, by simpa using hids, hid.symm.trans hrecipient⟩

/-- Hydrated rows are in strict sequence order. -/
lemma hydratePage_pairwise (nodeId : NodeId) (recipient : Recipient) (ids : List DeliveryId)
    (now : Seconds) : (s.hydratePage nodeId recipient ids now).Pairwise fun x y =>
      x.delivery.seq < y.delivery.seq := by
  have htrans : IsTrans PendingDelivery fun x y => x.delivery.seq ≤ y.delivery.seq :=
    ⟨fun _ _ _ h h' => h.trans h'⟩
  have htotal : Std.Total fun x y : PendingDelivery => x.delivery.seq ≤ y.delivery.seq :=
    ⟨fun x y => le_total x.delivery.seq y.delivery.seq⟩
  have hsorted : (s.hydratePage nodeId recipient ids now).Pairwise fun x y =>
      x.delivery.seq ≤ y.delivery.seq := List.pairwise_insertionSort _ _
  have hnodup : ((s.hydratePage nodeId recipient ids now).map fun x => x.delivery.id).Nodup := by
    rw [hydratePage, ((List.perm_insertionSort _ _).map _).nodup_iff]
    refine (s.nodup_select_ids _).sublist (map_filterMap_sublist ?_ _)
    intro r row hrow
    obtain ⟨a, -, hrow⟩ := Option.bind_eq_some_iff.mp hrow
    obtain ⟨m, -, hrow⟩ := Option.bind_eq_some_iff.mp hrow
    rw [← Option.some.inj hrow]
  refine ((hsorted.and (List.pairwise_map.mp hnodup)).imp_of_mem fun {x y} hx hy h => ?_)
  -- two rows of the agent with one sequence are one row
  refine lt_of_le_of_ne h.1 fun hseq => h.2 ?_
  obtain ⟨hx, -, hxid⟩ := mem_hydratePage hx
  obtain ⟨hy, -, hyid⟩ := mem_hydratePage hy
  rw [s.row_ext_seq hx hy (hxid.trans hyid.symm) hseq]

end Store

section Drain

variable {i : ℕ} (nodeId : NodeId) {recipient : Recipient} {later : List AgentId}

/-- After a readiness check, if it came out well, the drain goes on. -/
lemma Draining.ready {mark cursor : ℕ} {w w' : World lang Store}
    (h : Draining recipient.id later mark cursor (w.eventsOf i))
    (hw : w'.eventsOf i = w.eventsOf i) (hlater : recipient.id ∉ later)
    (a : (Stmt.providerReady nodeId recipient.providerName recipient.id).Answer) :
    Later later ((w'.after machine i
        (.providerReady nodeId recipient.providerName recipient.id) a).eventsOf i) ∧
      (a = true → Draining recipient.id later mark cursor ((w'.after machine i
        (.providerReady nodeId recipient.providerName recipient.id) a).eventsOf i)) := by
  have hwaiting : ∀ b ∈ later, concerns b
      (Stmt.providerReady nodeId recipient.providerName recipient.id) = false := by
    intro b hb
    have hne : recipient.id ≠ b := fun heq => hlater (heq ▸ hb)
    simpa [concerns] using hne
  refine ⟨?_, fun hready => ?_⟩
  · rw [World.eventsOf_after_self, hw]
    exact h.waiting.cons hwaiting
  · rw [World.eventsOf_after_self, hw]
    refine h.cons (fun _ _ _ hstmt => by simp at hstmt) ?_ (by simp) hwaiting
    simp [World.event, refuses, run, machine, hready]

/-- What the recheck of a hydrated row establishes, while the keys of the rows stay. -/
lemma rechecked_of_replayCurrent {w : World lang Store} {row : PendingDelivery} (now : Millis)
    (hstored : ∃ r ∈ w.store.deliveries, key r = key row.delivery)
    (hid : row.delivery.agentId = recipient.id)
    (h : w.store.replayCurrent nodeId recipient row.delivery.id (toSeconds now) = true) :
    Rechecked (buildDeliverFrame recipient row)
      (w.event machine i (.replayCurrent nodeId recipient row.delivery.id) now) := by
  obtain ⟨r, hr, hcond⟩ := List.any_eq_true.mp h
  obtain ⟨hrid, hsome⟩ := Bool.and_eq_true_iff.mp hcond
  obtain ⟨a, ha⟩ := Option.isSome_iff_exists.mp hsome
  obtain ⟨hmem, -, hrecipient, hnode, hprovider, hack, hactive, hunexpired⟩ :=
    Store.replayable_eq_some ha
  -- the row that was found is the one that was hydrated
  obtain ⟨r', hr', hkey⟩ := hstored
  have hkeyid : r'.id = row.delivery.id := congrArg RowKey.id hkey
  obtain rfl : r = r' := w.store.row_ext hr hr' ((beq_iff_eq.mp hrid).trans hkeyid.symm)
  have hseq : r.seq = row.delivery.seq := congrArg RowKey.seq hkey
  have hagent : r.agentId = row.delivery.agentId := congrArg RowKey.agentId hkey
  refine ⟨h, rfl, r, hr, a, hmem, hkeyid, hagent.trans hid, hseq, hactive, hunexpired, hrecipient,
    hnode, hprovider, ?_⟩
  rw [hseq] at hack
  exact hack

/-- The rows of a hydrated page are sent in order. -/
lemma sendRows_ordered (hlater : recipient.id ∉ later) {mark last : ℕ} (hlast : last ≤ mark)
    (rows : List PendingDelivery) {cursor : ℕ} (hcursor : cursor ≤ last) {w : World lang Store}
    (h : Draining recipient.id later mark cursor (w.eventsOf i))
    (hsorted : rows.Pairwise fun x y => x.delivery.seq < y.delivery.seq)
    (hrows : ∀ row ∈ rows, row.delivery.agentId = recipient.id ∧ cursor < row.delivery.seq ∧
      row.delivery.seq ≤ last ∧ ∃ r ∈ w.store.deliveries, key r = key row.delivery) :
    Replays i (fun out w' => Later later (w'.eventsOf i) ∧
        (out.2 = false → Draining recipient.id later mark last (w'.eventsOf i)))
      (sendRows nodeId recipient rows) w := by
  induction rows generalizing cursor w with
  | nil => exact ⟨h.waiting, fun _ => h.mono hcursor⟩
  | cons row rest ih =>
    obtain ⟨hfirst, hsorted⟩ := List.pairwise_cons.mp hsorted
    obtain ⟨hid, hlt, hle, hstored⟩ := hrows row List.mem_cons_self
    refine Replays.awaitQuiet ⟨fun _ _ => rfl, fun _ => rfl⟩
      fun w₁ hw₁ hstay₁ now (current : Bool) hcurrent => ?_
    have hquiet : Draining recipient.id later mark cursor
        ((w₁.after machine i (.replayCurrent nodeId recipient row.delivery.id) now).eventsOf i) := by
      rw [World.eventsOf_after_self, hw₁]
      exact h.quiet ⟨fun _ _ => rfl, fun _ => rfl⟩
    cases current with
    | false =>
      -- the row has been settled or handed off meanwhile
      refine ih hcursor hquiet hsorted fun row' hrow' => ?_
      obtain ⟨hid', hlt', hle', r, hr, hkey⟩ := hrows row' (List.mem_cons_of_mem _ hrow')
      obtain ⟨r₁, hr₁, hkey₁⟩ := hstay₁ r hr
      exact ⟨hid', hlt', hle', r₁, hr₁, hkey₁.trans hkey⟩
    | true =>
      refine Replays.await (fun _ _ => rfl) (fun _ _ _ hstmt => by simp at hstmt)
        fun w₂ hw₂ hstay₂ a₂ (isReady : Bool) hready => ?_
      obtain ⟨hwaiting₂, hD₂⟩ := hquiet.ready nodeId hw₂ hlater a₂
      cases isReady with
      | false => exact ⟨hwaiting₂, fun hfalse => by simp at hfalse⟩
      | true =>
        have hD₂ := hD₂ hready.symm
        have hpast : (w₂.after machine i (.providerReady nodeId recipient.providerName recipient.id)
            a₂).eventsOf i =
          w₂.event machine i (.providerReady nodeId recipient.providerName recipient.id) a₂ ::
            w₁.event machine i (.replayCurrent nodeId recipient row.delivery.id) now ::
              w.eventsOf i := by
          rw [World.eventsOf_after_self, hw₂, World.eventsOf_after_self, hw₁]
        obtain ⟨r, hr, hkey⟩ := hstored
        obtain ⟨r₁, hr₁, hkey₁⟩ := hstay₁ r hr
        have hemittable : Emittable (buildDeliverFrame recipient row)
            ((w₂.after machine i (.providerReady nodeId recipient.providerName recipient.id)
              a₂).eventsOf i) := by
          refine ⟨fun e he n p frame hstmt hagent => ?_, hD₂.accepted, ⟨_, _, _, hpast,
            ⟨_, _, rfl⟩, ?_⟩, mark, hle.trans hlast, hD₂.markRead, hD₂.mark_eq⟩
          · exact (hD₂.sent e he n p frame hstmt hagent).trans_lt hlt
          · exact rechecked_of_replayCurrent nodeId now ⟨r₁, hr₁, hkey₁.trans hkey⟩ hid hcurrent.symm
        refine Replays.await (fun _ _ => rfl) (fun n p frame hstmt => ?_)
          fun w₃ hw₃ hstay₃ a₃ (sent : Bool) hsent => ?_
        · obtain ⟨-, -, rfl⟩ : nodeId = n ∧ recipient.providerName = p ∧
              buildDeliverFrame recipient row = frame := by simpa using hstmt
          exact hemittable
        have hwaiting₃ : ∀ b ∈ later, concerns b (Stmt.sendToProvider nodeId recipient.providerName
            (buildDeliverFrame recipient row)) = false := by
          intro b hb
          have hne : recipient.id ≠ b := fun heq => hlater (heq ▸ hb)
          simpa [concerns, buildDeliverFrame] using hne
        cases sent with
        | false =>
          refine ⟨?_, fun hfalse => by simp at hfalse⟩
          rw [World.eventsOf_after_self, hw₃]
          exact hwaiting₂.cons hwaiting₃
        | true =>
          have hD₃ : Draining recipient.id later mark row.delivery.seq
              ((w₃.after machine i (.sendToProvider nodeId recipient.providerName
                (buildDeliverFrame recipient row)) a₃).eventsOf i) := by
            rw [World.eventsOf_after_self, hw₃]
            refine (hD₂.mono hlt.le).cons (fun n p frame hstmt _ => ?_) ?_ (by simp) hwaiting₃
            · obtain ⟨-, -, rfl⟩ : nodeId = n ∧ recipient.providerName = p ∧
                buildDeliverFrame recipient row = frame := by simpa using hstmt
              exact le_rfl
            · have htrue : a₃ = true := hsent.symm
              simp [World.event, refuses, run, machine, htrue]
          refine Discipline.Safe.bind (ih hle hD₃ hsorted fun row' hrow' => ?_) ?_
          · obtain ⟨hid', -, hle', r', hr', hkey'⟩ := hrows row' (List.mem_cons_of_mem _ hrow')
            obtain ⟨r₁', hr₁', hkey₁'⟩ := hstay₁ r' hr'
            obtain ⟨r₂', hr₂', hkey₂'⟩ := hstay₂ r₁' hr₁'
            obtain ⟨r₃', hr₃', hkey₃'⟩ := hstay₃ r₂' hr₂'
            exact ⟨hid', hfirst row' hrow', hle', r₃', hr₃',
              hkey₃'.trans (hkey₂'.trans (hkey₁'.trans hkey'))⟩
          · rintro ⟨ids, interrupted⟩ - w' hout
            exact hout

/-- Marking rows concerns no agent. -/
lemma markDeliveriesDelivered_quiet (ids : List DeliveryId) :
    (markDeliveriesDelivered ids).Issues Stmt.isQuiet :=
  Prog.issues_ask_bind ⟨fun _ _ => rfl, fun _ => rfl⟩ fun _ =>
    markPages_issues (fun _ _ => ⟨fun _ _ => rfl, fun _ => rfl⟩) _ _

/-- A page that ends at `last` leaves the cursor there, unless the drain is interrupted. -/
lemma drainPage_ordered (hlater : recipient.id ∉ later) {mark last cursor : ℕ} (hlast : last ≤ mark)
    (hcursor : cursor ≤ last) {w : World lang Store}
    (h : Draining recipient.id later mark cursor (w.eventsOf i)) (ids : List DeliveryId)
    (hids : ∀ id ∈ ids, ∃ r ∈ w.store.deliveries, r.id = id ∧ cursor < r.seq ∧ r.seq ≤ last) :
    Replays i (fun out w' => Later later (w'.eventsOf i) ∧
        (out.2 = true → Draining recipient.id later mark last (w'.eventsOf i)))
      (drainPage nodeId recipient ids) w := by
  refine Replays.awaitQuiet ⟨fun _ _ => rfl, fun _ => rfl⟩
    fun w₁ hw₁ hstay₁ now (rows : List PendingDelivery) hrows => ?_
  obtain rfl : rows = w₁.store.hydratePage nodeId recipient ids (toSeconds now) := hrows
  have hD₁ : Draining recipient.id later mark cursor
      ((w₁.after machine i (.hydratePage nodeId recipient ids) now).eventsOf i) := by
    rw [World.eventsOf_after_self, hw₁]
    exact h.quiet ⟨fun _ _ => rfl, fun _ => rfl⟩
  refine Replays.awaitQuiet ⟨fun _ _ => rfl, fun _ => rfl⟩ fun w₂ hw₂ hstay₂ a₂ _ _ => ?_
  have hD₂ : Draining recipient.id later mark cursor
      ((w₂.after machine i (.fetchAttachments ((w₁.store.hydratePage nodeId recipient ids
        (toSeconds now)).map fun row => row.delivery.messageId).eraseDups) a₂).eventsOf i) := by
    rw [World.eventsOf_after_self, hw₂]
    exact hD₁.quiet ⟨fun _ _ => rfl, fun _ => rfl⟩
  refine Discipline.Safe.bind (sendRows_ordered nodeId hlater hlast _ hcursor hD₂
    (Store.hydratePage_pairwise nodeId recipient ids (toSeconds now)) fun row hrow => ?_) ?_
  · -- the hydrated row has the sequence it had when the page was selected
    obtain ⟨hmem, hid, hagent⟩ := Store.mem_hydratePage hrow
    obtain ⟨r, hr, hrid, hlt, hle⟩ := hids _ hid
    obtain ⟨r₁, hr₁, hkey₁⟩ := hstay₁ r hr
    have hrid₁ : r₁.id = r.id := congrArg RowKey.id hkey₁
    have hrseq₁ : r₁.seq = r.seq := congrArg RowKey.seq hkey₁
    obtain rfl : r₁ = row.delivery := w₁.store.row_ext hr₁ hmem (hrid₁.trans hrid)
    obtain ⟨r₂, hr₂, hkey₂⟩ := hstay₂ _ hmem
    exact ⟨hagent, hrseq₁ ▸ hlt, hrseq₁ ▸ hle, r₂, hr₂, hkey₂⟩
  · rintro ⟨deliveredIds, interrupted⟩ - w₃ hout
    refine Discipline.Safe.bind (Replays.of_issues (markDeliveriesDelivered_quiet deliveredIds)
      (K := fun es => Later later es ∧ (interrupted = false →
        Draining recipient.id later mark last es)) (fun e es he hK => ⟨?_, fun hfalse => ?_⟩)
      hout) ?_
    · exact hK.1.cons fun b _ => he.2 b
    · exact (hK.2 hfalse).quiet he
    rintro transitioned - w₄ ⟨hK₄, -⟩
    split_ifs with hany
    · refine Replays.awaitQuiet ⟨fun _ _ => rfl, fun _ => rfl⟩ fun w₅ hw₅ _ a₅ _ _ => ?_
      simp only [Prog.pure_eq_done, Discipline.safe_done, World.eventsOf_after_self, hw₅]
      refine ⟨hK₄.1.cons fun _ _ => rfl, fun hgoOn => ?_⟩
      exact (hK₄.2 (by simpa using hgoOn)).quiet ⟨fun _ _ => rfl, fun _ => rfl⟩
    · exact ⟨hK₄.1, fun hgoOn => hK₄.2 (by simpa using hgoOn)⟩

/-- The paging loop: the induction is on its bound, and carries the state of the drain at the
cursor. -/
lemma drainPages_ordered (hlater : recipient.id ∉ later) {mark : ℕ} (fuel : ℕ) {cursor : ℕ}
    {w : World lang Store} (h : Draining recipient.id later mark cursor (w.eventsOf i)) :
    Replays i (fun _ w' => Later later (w'.eventsOf i))
      (drainPages nodeId recipient mark fuel cursor) w := by
  induction fuel generalizing cursor w with
  | zero => exact h.waiting
  | succ fuel ih =>
    unfold drainPages
    split_ifs with hlt
    · refine Replays.await (fun _ _ => rfl) (fun _ _ _ hstmt => by simp at hstmt)
        fun w₁ hw₁ _ a₁ (isReady : Bool) hready => ?_
      obtain ⟨hwaiting₁, hD₁⟩ := h.ready nodeId hw₁ hlater a₁
      cases isReady with
      | false => exact hwaiting₁
      | true =>
        have hD₁ := hD₁ hready.symm
        refine Replays.awaitQuiet ⟨fun _ _ => rfl, fun _ => rfl⟩
          fun w₂ hw₂ _ a₂ (page : List (DeliveryId × ℕ)) hpage => ?_
        obtain rfl : page = w₂.store.replayPage recipient.id cursor mark := hpage
        have hD₂ : Draining recipient.id later mark cursor
            ((w₂.after machine i (.replayPage recipient.id cursor mark) a₂).eventsOf i) := by
          rw [World.eventsOf_after_self, hw₂]
          exact hD₁.quiet ⟨fun _ _ => rfl, fun _ => rfl⟩
        cases hlast : (w₂.store.replayPage recipient.id cursor mark).getLast? with
        | none => exact hD₂.waiting
        | some last =>
          obtain ⟨r, -, -, hseq, -, hcursor, hmark⟩ :=
            Store.mem_replayPage (List.mem_of_getLast? hlast)
          refine Discipline.Safe.bind (drainPage_ordered nodeId hlater (hseq ▸ hmark)
            (hseq ▸ hcursor.le) hD₂ _ fun id hid => ?_) ?_
          · obtain ⟨x, hx, rfl⟩ := List.mem_map.mp hid
            obtain ⟨r', hr', hrid', hseq', -, hcursor', -⟩ := Store.mem_replayPage hx
            exact ⟨r', hr', hrid', hcursor', hseq'.trans_le (Store.le_getLast_replayPage hlast hx)⟩
          · rintro ⟨sent, goOn⟩ - w₃ ⟨hwaiting₃, hD₃⟩
            cases goOn with
            | false => exact hwaiting₃
            | true => exact Discipline.Safe.bind (ih (hD₃ rfl)) fun _ _ _ hout => hout
    · exact h.waiting

/-- The drain of a recipient for whom nothing has been done. -/
lemma drainRecipient_ordered (hlater : recipient.id ∉ later) {w : World lang Store}
    (h : Later (recipient.id :: later) (w.eventsOf i)) :
    Replays i (fun _ w' => Later later (w'.eventsOf i)) (drainRecipient nodeId recipient) w := by
  have huntouched := h recipient.id List.mem_cons_self
  have hwaiting : Later later (w.eventsOf i) := fun b hb => h b (List.mem_cons_of_mem _ hb)
  have hne : ∀ b ∈ later, recipient.id ≠ b := fun b hb heq => hlater (heq ▸ hb)
  refine Replays.await (fun _ _ => rfl) (fun _ _ _ hstmt => by simp at hstmt)
    fun w₁ hw₁ _ a₁ (isReady : Bool) hready => ?_
  have hwaiting₁ : Later later ((w₁.after machine i (.providerReady nodeId recipient.providerName
      recipient.id) a₁).eventsOf i) := by
    rw [World.eventsOf_after_self, hw₁]
    exact hwaiting.cons fun b hb => by simpa [concerns] using hne b hb
  cases isReady with
  | false => exact hwaiting₁
  | true =>
    refine Replays.await (fun _ _ => rfl) (fun _ _ _ hstmt => by simp at hstmt)
      fun w₂ hw₂ _ a₂ (mark : Option ℕ) hmark => ?_
    have hwaiting₂ : Later later ((w₂.after machine i (.highWater recipient.id) a₂).eventsOf i) := by
      rw [World.eventsOf_after_self, hw₂]
      exact hwaiting₁.cons fun b hb => by simpa [concerns] using hne b hb
    cases mark with
    | none => exact hwaiting₂
    | some mark =>
      refine drainPages_ordered nodeId hlater _ ⟨?_, ?_, ?_, ?_, hwaiting₂⟩
      all_goals rw [World.eventsOf_after_self, hw₂, World.eventsOf_after_self, hw₁]
      · intro e he n p frame hstmt hagent
        simp only [List.mem_cons] at he
        rcases he with rfl | rfl | he
        · simp at hstmt
        · simp at hstmt
        · have hfalse := huntouched e he
          rw [hstmt] at hfalse
          simp [concerns, hagent] at hfalse
      · intro e he
        simp only [List.mem_cons] at he
        rcases he with rfl | rfl | he
        · rfl
        · have htrue : a₁ = true := hready.symm
          simp [World.event, refuses, run, machine, htrue]
        · exact not_refuses_of_not_concerns (huntouched e he)
      · exact ⟨_, List.mem_cons_self, rfl⟩
      · intro e he hstmt
        simp only [List.mem_cons] at he
        rcases he with rfl | rfl | he
        · exact hmark.symm
        · simp at hstmt
        · have hfalse := huntouched e he
          rw [hstmt] at hfalse
          simp [concerns] at hfalse

end Drain

/-- The drains of a roster of distinct agents. -/
lemma drainRoster_ordered {i : ℕ} {nodeId : NodeId} (recipients : List Recipient)
    (hnodup : (recipients.map Recipient.id).Nodup) {w : World lang Store}
    (h : Later (recipients.map Recipient.id) (w.eventsOf i)) :
    Replays i (fun _ _ => True) (drainRoster nodeId recipients) w := by
  induction recipients generalizing w with
  | nil => trivial
  | cons recipient rest ih =>
    obtain ⟨hnotMem, hnodup⟩ := List.nodup_cons.mp hnodup
    refine Discipline.Safe.bind (drainRecipient_ordered nodeId hnotMem h) fun _ _ w' hw' => ?_
    exact Discipline.Safe.bind (ih hnodup hw') fun _ _ _ _ => trivial

/-! ## The roster -/

/-- A roster lists agents once, and only those asked for. -/
lemma nodup_roster (s : Store) (nodeId : NodeId) (providerName : Option String)
    (ids : Option (List AgentId)) : ((s.roster nodeId providerName ids).map Recipient.id).Nodup := by
  rw [Store.roster, ((List.perm_insertionSort _ _).map _).nodup_iff, List.map_map]
  exact s.nodup_agent_ids.sublist (List.filter_sublist.map _)

lemma mem_of_mem_roster {s : Store} {nodeId : NodeId} {providerName : Option String}
    {ids : List AgentId} {recipient : Recipient}
    (h : recipient ∈ s.roster nodeId providerName (some ids)) : recipient.id ∈ ids := by
  obtain ⟨a, ha, rfl⟩ := List.mem_map.mp ((List.mem_insertionSort _).mp h)
  simpa using (Bool.and_eq_true_iff.mp (Table.mem_select.mp ha).2).2

/-- Chunks of distinct ids give a roster of distinct agents, and reading it concerns nobody. -/
lemma rosterInChunks_ordered {i : ℕ} (nodeId : NodeId) (providerName : Option String)
    (chunks : List (List AgentId)) (hchunks : chunks.flatten.Nodup) {w : World lang Store}
    (h : ∀ b, Untouched b (w.eventsOf i)) :
    Replays i (fun recipients w' => (∀ b, Untouched b (w'.eventsOf i)) ∧
        (recipients.map Recipient.id).Nodup ∧ ∀ r ∈ recipients, r.id ∈ chunks.flatten)
      (rosterInChunks nodeId providerName chunks) w := by
  induction chunks generalizing w with
  | nil => exact ⟨h, by simp, by simp⟩
  | cons chunk rest ih =>
    rw [List.flatten_cons, List.nodup_append] at hchunks
    refine Replays.awaitQuiet ⟨fun _ _ => rfl, fun _ => rfl⟩
      fun w₁ hw₁ _ a₁ (rows : List Recipient) hrows => ?_
    obtain rfl : rows = w₁.store.roster nodeId providerName (some chunk) := hrows
    have h₁ : ∀ b, Untouched b
        ((w₁.after machine i (.roster nodeId providerName (some chunk)) a₁).eventsOf i) := by
      intro b
      rw [World.eventsOf_after_self, hw₁]
      intro e he
      rcases List.mem_cons.mp he with rfl | he
      · rfl
      · exact h b e he
    refine Discipline.Safe.bind (ih hchunks.2.1 h₁) ?_
    rintro more - w' ⟨huntouched, hnodup, hmem⟩
    refine ⟨huntouched, ?_, fun r hr => ?_⟩
    · rw [List.map_append, List.nodup_append]
      refine ⟨nodup_roster _ _ _ _, hnodup, fun x hx y hy heq => ?_⟩
      obtain ⟨r, hr, rfl⟩ := List.mem_map.mp hx
      obtain ⟨r', hr', rfl⟩ := List.mem_map.mp hy
      exact hchunks.2.2 _ (mem_of_mem_roster hr) _ (hmem r' hr') heq
    · rw [List.flatten_cons]
      rcases List.mem_append.mp hr with hr | hr
      · exact List.mem_append_left _ (mem_of_mem_roster hr)
      · exact List.mem_append_right _ (hmem r hr)

lemma replayPendingToNode_ordered {i : ℕ} (nodeId : NodeId) (scope : NodeDeliveryReplayScope)
    {w : World lang Store} (hfresh : w.eventsOf i = []) :
    Replays i (fun _ _ => True) (replayPendingToNode nodeId scope) w := by
  have huntouched : ∀ b, Untouched b (w.eventsOf i) := by simp [Untouched, hfresh]
  unfold replayPendingToNode
  split
  · refine Replays.awaitQuiet ⟨fun _ _ => rfl, fun _ => rfl⟩
      fun w₁ hw₁ _ a₁ (recipients : List Recipient) hrecipients => ?_
    obtain rfl : recipients = w₁.store.roster nodeId scope.providerName none := hrecipients
    refine drainRoster_ordered _ (nodup_roster _ _ _ _) fun b _ => ?_
    rw [World.eventsOf_after_self, hw₁, hfresh]
    simp [Untouched, concerns]
  · trivial
  · next wantedIds _ hwanted =>
    have hnodup : wantedIds.Nodup := by
      obtain ⟨ids, -, rfl⟩ := Option.map_eq_some_iff.mp hwanted
      exact nodup_eraseDups ids
    refine Discipline.Safe.bind (rosterInChunks_ordered nodeId scope.providerName _ ?_ huntouched)
      ?_
    · rw [flatten_slices (by decide) le_rfl]
      exact (List.perm_insertionSort _ _).nodup_iff.mpr hnodup
    · rintro recipients - w' ⟨huntouched, hnodup, -⟩
      refine drainRoster_ordered _ ?_ fun b _ => huntouched b
      rw [((List.perm_insertionSort _ _).map _).nodup_iff]
      exact hnodup

/-! ## Every run -/

/-- Only a replay sends, and only retention deletes. -/
lemma body_sendsNothing {c : Call} (hc : withoutRetention.calls c)
    (hreplay : ∀ nodeId scope, c ≠ .replayPendingToNode nodeId scope) :
    c.body.Issues fun q : Stmt => q.deletesNothing ∧
      ∀ nodeId providerName frame, q ≠ .sendToProvider nodeId providerName frame := by
  refine (body_issues c).mono fun q hq => ⟨fun s r => ?_, fun nodeId providerName frame => ?_⟩
  · cases q with
    | pruneDeliveries | pruneMessages | recoverExpired =>
      have hwrites := hq.resolve_left (by simp [Stmt.isRead])
      cases c <;> simp_all [Call.writes, withoutRetention]
    | _ => rfl
  · rintro rfl
    obtain ⟨_, _, rfl⟩ := writes_sendToProvider (hq.resolve_left (by simp [Stmt.isRead]))
    exact hreplay _ _ rfl

lemma replayDiscipline_keeps : replayDiscipline.Keeps openService withoutRetention
    (fun _ _ _ _ _ => True) where
  init _ _ _ := orderedReplay_nil
  drift_inv _ _ _ h := h
  drift_rely d w _ := by
    refine ⟨rfl, fun r hr => ⟨r, ?_, rfl⟩⟩
    cases d <;> exact hr
  call c hc i w _ hfresh _ := by
    by_cases hreplay : ∃ nodeId scope, c = .replayPendingToNode nodeId scope
    · obtain ⟨nodeId, scope, rfl⟩ := hreplay
      exact replayPendingToNode_ordered nodeId scope (World.eventsOf_eq_nil w i hfresh)
    · refine (Discipline.Safe.of_issues (body_sendsNothing hc fun nodeId scope heq =>
        hreplay ⟨nodeId, scope, heq⟩) ?_ () w).mono fun _ _ _ _ => trivial
      rintro w n q ⟨hdeletes, hsends⟩ hI _ a
      refine ⟨fun j hj => ⟨World.eventsOf_after_ne machine w i q a hj, rowsStay_run hdeletes a _⟩,
        replayDiscipline_inv hI i (fun nodeId providerName frame hstmt => ?_) a⟩
      exact absurd hstmt (hsends nodeId providerName frame)

/-- Every replay is ordered, however it is interleaved. -/
lemma orderedReplay_of_reachable {g : Config lang Store Call.Result}
    (h : openService.Reachable withoutRetention g) (i : ℕ) :
    OrderedReplay (g.world.eventsOf i) := by
  obtain ⟨_, hI⟩ := replayDiscipline_keeps.inv_of_reachable h
  exact hI i

end Delivery
