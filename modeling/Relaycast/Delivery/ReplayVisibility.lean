import Relaycast.Delivery.Service

/-!
# Replay visibility

`replayPendingToNode` reads rows past the cumulative ack cursor only, so a queued or delivered row
at or below its agent's cursor is lost to node replay.

A cumulative ack reads the rows it settles first and moves the cursor with its last batch.  What
keeps the cursor below every row it did not settle is that rows inserted in between get a sequence
above the one being acknowledged.  The allocator guarantees that for a sequence it has handed out.
`up_to_seq` is the caller's, though: a value the allocator has not reached yet can be reached by an
insert between the read and the last batch, and the cursor then passes a row that is still queued.
-/

namespace Delivery

open Relational Interleaving

/-- No queued or delivered row is at or below its agent's cumulative ack cursor. -/
def ReplayVisible (s : Store) : Prop :=
  ∀ r ∈ s.deliveries, ∀ a ∈ s.agents, a.id = r.agentId → r.status.isActive = true →
    a.deliveryAckSeq < r.seq

/-- The invariant behind it.  A failed row can be queued again, so it counts as well: what is not
acked or dead-lettered lies above the cursor. -/
def CursorBelow (s : Store) : Prop :=
  ∀ r ∈ s.deliveries, ∀ a ∈ s.agents, a.id = r.agentId → r.status.isTerminal = false →
    a.deliveryAckSeq < r.seq

lemma CursorBelow.replayVisible {s : Store} (h : CursorBelow s) : ReplayVisible s :=
  fun r hr a ha hid hactive => h r hr a ha hid (DeliveryStatus.not_isTerminal_of_isActive hactive)

/-- Call `i` has read the rows a cumulative ack of `agentId` up to `u` settles, and has not moved
the cursor. -/
def OpenAck (w : World lang Store) (i : ℕ) (agentId : AgentId) (u : ℕ) : Prop :=
  (∃ e ∈ w.eventsOf i, e.stmt = Stmt.ackableUpTo agentId u) ∧
    ∀ e ∈ w.eventsOf i, ∀ rows, e.stmt ≠ Stmt.ackRows agentId rows (some u)

/-- The runs in which no message write allocates a sequence that an open cumulative ack of the same
agent is about to pass. -/
def noInsertUnderOpenAck : Regime lang Store Call where
  calls _ := True
  permits w _ q := ∀ m write, q = Stmt.writeMessage m write → ∀ i agentId u,
    OpenAck w i agentId u → ∀ c ∈ write.candidates w.store, c.row.agentId = agentId →
      u < c.row.seq
  crashes := True

/-! ## What a statement does to the cursor and to the rows above it -/

lemma agent_ext {s : Store} {a b : Agent} (ha : a ∈ s.agents) (hb : b ∈ s.agents)
    (h : a.id = b.id) : a = b :=
  Table.eq_of_clash ha hb (beq_iff_eq.mpr h)

lemma agentId_eq_of_key {r r' : Row} (h : key r = key r') : r.agentId = r'.agentId :=
  congrArg RowKey.agentId h

lemma seq_eq_of_key {r r' : Row} (h : key r = key r') : r.seq = r'.seq := congrArg RowKey.seq h

lemma id_eq_of_key {r r' : Row} (h : key r = key r') : r.id = r'.id := congrArg RowKey.id h

/-- A row that is not terminal after a statement was stored and not terminal before, unless the
statement inserted it. -/
lemma not_isTerminal_before {q : Stmt} {a : q.Answer} {s : Store} (hq : q.isMessageWrite = false)
    {r' : Row} (hr' : r' ∈ (run q a s).2.deliveries) (hterm : r'.status.isTerminal = false) :
    ∃ r ∈ s.deliveries, key r = key r' ∧ r.status.isTerminal = false ∧ r' = q.effect a s r := by
  rw [Table.mem_def, run_rows q a s hq] at hr'
  obtain ⟨r, hr, rfl⟩ := List.mem_map.mp hr'
  refine ⟨r, (List.mem_filter.mp hr).1, (q.key_effect a s r).symm, ?_, rfl⟩
  by_contra hne
  rw [q.effect_of_isTerminal a s (by simpa using hne)] at hterm
  exact hne hterm

/-- Does the statement move a cumulative cursor? -/
def Stmt.movesCursor : Stmt → Bool
  | .ackRows _ _ upTo => upTo.isSome
  | _ => false

lemma agentEffect_id (q : Stmt) (a : q.Answer) (ag : Agent) : (q.agentEffect a ag).id = ag.id := by
  cases q <;> try rfl
  simp only [Stmt.agentEffect]
  split_ifs <;> rfl

lemma agentEffect_deliveryAckSeq {q : Stmt} (hq : q.movesCursor = false) (a : q.Answer)
    (ag : Agent) : (q.agentEffect a ag).deliveryAckSeq = ag.deliveryAckSeq := by
  cases q <;> try rfl
  rename_i agentId rows upTo
  obtain rfl : upTo = none := by simpa [Stmt.movesCursor] using hq
  simp only [Stmt.agentEffect]
  split_ifs <;> rfl

lemma mem_agents_run {q : Stmt} {a : q.Answer} {s : Store} (hq : q.isMessageWrite = false)
    {ag' : Agent} (h : ag' ∈ (run q a s).2.agents) :
    ∃ ag ∈ s.agents, ag' = q.agentEffect a ag := by
  rw [Table.mem_def, run_agents q a s hq] at h
  obtain ⟨ag, hag, rfl⟩ := List.mem_map.mp h
  exact ⟨ag, hag, rfl⟩

lemma CursorBelow.run {q : Stmt} {a : q.Answer} {s : Store} (h : CursorBelow s)
    (hq : q.isMessageWrite = false) (hc : q.movesCursor = false) :
    CursorBelow (Delivery.run q a s).2 := by
  intro r' hr' ag' hag' hid hterm
  obtain ⟨r, hr, hkey, hterm₀, -⟩ := not_isTerminal_before hq hr' hterm
  obtain ⟨ag, hag, rfl⟩ := mem_agents_run hq hag'
  rw [agentEffect_deliveryAckSeq hc, ← seq_eq_of_key hkey]
  refine h r hr ag hag ?_ hterm₀
  rw [agentId_eq_of_key hkey, ← hid, agentEffect_id]

/-- An inserted row lies above its agent's cursor. -/
lemma lt_seq_of_candidate {s : Store} {w : DeliveryWrite} {c : Candidate}
    (hc : c ∈ w.candidates s) {ag : Agent} (hag : ag ∈ s.agents) (hid : ag.id = c.row.agentId) :
    ag.deliveryAckSeq < c.row.seq := by
  obtain ⟨ag', hag', id, reason, hrow, -⟩ := candidate_newRow hc
  rw [hrow] at hid ⊢
  obtain rfl := agent_ext hag hag' hid
  exact Nat.lt_succ_of_le (le_max_right _ _)

lemma CursorBelow.writeMessage {s s' : Store} {m : Option Message} {w : DeliveryWrite}
    (h : CursorBelow s) (hw : writeMessage s m w = .ok s') : CursorBelow s' := by
  obtain ⟨-, -, added, hsub, hins⟩ := writeMessage_ok hw
  obtain ⟨f, hagents, -⟩ := hins.agents
  intro r hr ag' hag' hid hterm
  rw [Table.mem_def, hagents] at hag'
  obtain ⟨ag, hag, rfl⟩ := List.mem_map.mp hag'
  rw [Table.mem_def, hins.rows] at hr
  rcases List.mem_append.mp hr with hr | hr
  · exact h r hr ag hag hid hterm
  · obtain ⟨c, hc, rfl⟩ := List.mem_map.mp (hsub.subset hr)
    have hlt : ag.deliveryAckSeq < c.row.seq := lt_seq_of_candidate hc hag hid
    exact hlt

/-! ## The discipline -/

/-- The rows not yet terminal in `w'` were so in `w`, or were inserted above every cumulative ack
that call `i` has open. -/
def InsertsAbove (i : ℕ) (w w' : World lang Store) : Prop :=
  ∀ r' ∈ w'.store.deliveries, r'.status.isTerminal = false →
    (∃ r ∈ w.store.deliveries, key r = key r' ∧ r.status.isTerminal = false) ∨
      ∀ agentId u, OpenAck w i agentId u → r'.agentId = agentId → u < r'.seq

/-- Between two statements of call `i` the others leave its history alone and insert above its
open acks; together they keep the cursors below. -/
def cursorDiscipline : Discipline lang Store Unit where
  rely i w w' := w'.eventsOf i = w.eventsOf i ∧ InsertsAbove i w w'
  refl i w := ⟨rfl, fun r hr hterm => .inl ⟨r, hr, rfl, hterm⟩⟩
  trans i w₁ w₂ w₃ h h' := by
    refine ⟨h'.1.trans h.1, fun r hr hterm => ?_⟩
    rcases h'.2 r hr hterm with ⟨r₂, hr₂, hkey, hterm₂⟩ | habove
    · rcases h.2 r₂ hr₂ hterm₂ with ⟨r₁, hr₁, hkey', hterm₁⟩ | habove
      · exact .inl ⟨r₁, hr₁, hkey'.trans hkey, hterm₁⟩
      · refine .inr fun agentId u hopen hid => ?_
        rw [← seq_eq_of_key hkey]
        exact habove agentId u hopen ((agentId_eq_of_key hkey).trans hid)
    · refine .inr fun agentId u hopen hid => habove agentId u ?_ hid
      simpa only [OpenAck, h.1] using hopen
  inv w _ := CursorBelow w.store

/-- A statement that inserts nothing is an allowed step for the other calls. -/
lemma rely_after {w : World lang Store} {i j : ℕ} (hj : j ≠ i) {q : Stmt}
    (hq : q.isMessageWrite = false) (a : q.Answer) :
    cursorDiscipline.rely j w (w.after machine i q a) := by
  refine ⟨World.eventsOf_after_ne machine w i q a hj, fun r' hr' hterm => ?_⟩
  obtain ⟨r, hr, hkey, hterm₀, -⟩ := not_isTerminal_before hq hr' hterm
  exact .inl ⟨r, hr, hkey, hterm₀⟩

/-- Every statement but the one that moves a cursor keeps the discipline by itself. -/
lemma keeps_of_not_movesCursor {w : World lang Store} {i : ℕ} {q : Stmt}
    (hq : q.movesCursor = false) (h : CursorBelow w.store)
    (hperm : noInsertUnderOpenAck.permits w i q) (a : q.Answer) :
    (∀ j, j ≠ i → cursorDiscipline.rely j w (w.after machine i q a)) ∧
      CursorBelow (w.after machine i q a).store := by
  cases hw : q.isMessageWrite with
  | false => exact ⟨fun j hj => rely_after hj hw a, h.run hw hq⟩
  | true =>
    cases q with
    | writeMessage m write =>
      rcases run_writeMessage w.store m write with ⟨s', hs', hrun⟩ | ⟨e, -, hrun⟩
      · have hstore : (w.after machine i (.writeMessage m write) a).store = s' :=
          congrArg Prod.snd hrun
        refine ⟨fun j hj => ⟨World.eventsOf_after_ne machine w i (.writeMessage m write) a hj, ?_⟩,
          hstore ▸ h.writeMessage hs'⟩
        obtain ⟨-, -, added, hsub, hins⟩ := writeMessage_ok hs'
        intro r' hr' hterm
        rw [hstore, Table.mem_def, hins.rows] at hr'
        rcases List.mem_append.mp hr' with hr' | hr'
        · exact .inl ⟨r', hr', rfl, hterm⟩
        · obtain ⟨c, hc, rfl⟩ := List.mem_map.mp (hsub.subset hr')
          exact .inr fun agentId u hopen hid => hperm m write rfl j agentId u hopen c hc hid
      · have hstore : (w.after machine i (.writeMessage m write) a).store = w.store :=
          congrArg Prod.snd hrun
        refine ⟨fun j hj => ⟨World.eventsOf_after_ne machine w i (.writeMessage m write) a hj,
          fun r' hr' hterm => ?_⟩, hstore ▸ h⟩
        exact .inl ⟨r', hstore ▸ hr', rfl, hterm⟩
    | _ => simp [Stmt.isMessageWrite] at hw

/-! ## The cumulative ack -/

/-- The rows an ack up to `u` has to settle are among `ids`. -/
def Covers (w : World lang Store) (agentId : AgentId) (u : ℕ) (ids : List DeliveryId) : Prop :=
  ∀ r ∈ w.store.deliveries, r.agentId = agentId → r.seq ≤ u → r.status.isTerminal = false →
    r.id ∈ ids

/-- What an open ack covers, it still covers after the others took steps. -/
lemma Covers.rely {w w' : World lang Store} {i : ℕ} {agentId : AgentId} {u : ℕ}
    {ids : List DeliveryId} (h : Covers w agentId u ids) (hopen : OpenAck w i agentId u)
    (hw : cursorDiscipline.rely i w w') : OpenAck w' i agentId u ∧ Covers w' agentId u ids := by
  refine ⟨by simpa only [OpenAck, hw.1] using hopen, fun r' hr' hid hle hterm => ?_⟩
  rcases hw.2 r' hr' hterm with ⟨r, hr, hkey, hterm₀⟩ | habove
  · rw [← id_eq_of_key hkey]
    exact h r hr ((agentId_eq_of_key hkey).trans hid) ((seq_eq_of_key hkey).trans_le hle) hterm₀
  · exact absurd (habove agentId u hopen hid) (by omega)

/-- A chunk of the ack settles its rows: the others still have to be settled. -/
lemma Covers.ackRows {w : World lang Store} (i : ℕ) {agentId : AgentId} {u : ℕ}
    {chunk : List DeliveryWithChannel} (ids : List DeliveryId) {upTo : Option ℕ}
    (h : Covers w agentId u (chunk.map (fun row => row.delivery.id) ++ ids))
    (a : (Stmt.ackRows agentId chunk upTo).Answer) :
    Covers (w.after machine i (.ackRows agentId chunk upTo) a) agentId u ids := by
  intro r' hr' hid hle hterm
  obtain ⟨r, hr, hkey, hterm₀, hr'eq⟩ := not_isTerminal_before rfl hr' hterm
  have hmem := h r hr ((agentId_eq_of_key hkey).trans hid) ((seq_eq_of_key hkey).trans_le hle)
    hterm₀
  rcases List.mem_append.mp hmem with hchunk | hids
  · -- the row is in the chunk, so the batch has acked it
    have hacked : r' = Store.ackedRow a r := by
      rw [hr'eq]
      exact if_pos (by simpa [Update.hits, Store.ackableIn, hterm₀] using hchunk)
    rw [hacked] at hterm
    exact absurd hterm (by simp [Store.ackedRow, DeliveryStatus.isTerminal])
  · rwa [← id_eq_of_key hkey]

/-- The batch that moves the cursor passes settled rows only. -/
lemma CursorBelow.advance {s : Store} (h : CursorBelow s) {agentId : AgentId} {u : ℕ}
    {chunk : List DeliveryWithChannel} (a : (Stmt.ackRows agentId chunk (some u)).Answer)
    (hcov : ∀ r ∈ (Delivery.run (.ackRows agentId chunk (some u)) a s).2.deliveries,
      r.agentId = agentId → r.seq ≤ u → r.status.isTerminal = true) :
    CursorBelow (Delivery.run (.ackRows agentId chunk (some u)) a s).2 := by
  intro r' hr' ag' hag' hid hterm
  obtain ⟨r, hr, hkey, hterm₀, -⟩ := not_isTerminal_before rfl hr' hterm
  obtain ⟨ag, hag, rfl⟩ := mem_agents_run rfl hag'
  have hid₀ : ag.id = r.agentId := by rw [agentId_eq_of_key hkey, ← hid, agentEffect_id]
  have hold := h r hr ag hag hid₀ hterm₀
  rw [seq_eq_of_key hkey] at hold
  simp only [Stmt.agentEffect]
  split_ifs with hag
  · have hu : u < r'.seq := by
      by_contra hle
      have := hcov r' hr' (by rw [← hid, agentEffect_id]; simpa using hag) (by omega)
      simp [hterm] at this
    simp only [Store.ackedAgent]
    split_ifs <;> omega
  · exact hold

/-- The last batch of an ack that covers what it has to settle keeps the discipline. -/
lemma keeps_of_covers {w : World lang Store} {i : ℕ} {agentId : AgentId} {u : ℕ}
    (chunk : List DeliveryWithChannel) (h : CursorBelow w.store)
    (hcov : Covers w agentId u (chunk.map fun row => row.delivery.id))
    (a : (Stmt.ackRows agentId chunk (some u)).Answer) :
    (∀ j, j ≠ i → cursorDiscipline.rely j w
      (w.after machine i (.ackRows agentId chunk (some u)) a)) ∧
      CursorBelow (w.after machine i (.ackRows agentId chunk (some u)) a).store := by
  refine ⟨fun j hj => rely_after (q := .ackRows agentId chunk (some u)) hj rfl a,
    h.advance a fun r hr hid hle => ?_⟩
  have hnone := Covers.ackRows i [] (by simpa using hcov) a
  by_contra hterm
  exact List.not_mem_nil (hnone r hr hid hle (by simpa using hterm))

/-- The chunks of a cumulative ack that cover what it has to settle are safe to run. -/
lemma ackChunks_safe {i : ℕ} {agentId : AgentId} {u : ℕ}
    (chunks : List (List DeliveryWithChannel)) (w : World lang Store)
    (hopen : OpenAck w i agentId u)
    (hcov : Covers w agentId u (chunks.flatten.map fun row => row.delivery.id)) :
    cursorDiscipline.Safe machine noInsertUnderOpenAck.permits i (fun _ _ _ => True)
      (ackChunks agentId u chunks) () w := by
  induction chunks generalizing w with
  | nil => trivial
  | cons chunk rest ih =>
    refine Discipline.Safe.ask_bind fun w' _ hw hI hperm a => ?_
    obtain ⟨hopen', hcov'⟩ := hcov.rely hopen hw
    rw [List.flatten_cons, List.map_append] at hcov'
    cases rest with
    | nil =>
      obtain ⟨hrely, hI'⟩ := keeps_of_covers (i := i) chunk hI (by simpa using hcov') a
      exact ⟨hrely, (), hI', fun _ _ => trivial⟩
    | cons next rest =>
      refine ⟨fun j hj => rely_after (q := .ackRows agentId chunk none) hj rfl a, (),
        CursorBelow.run hI rfl rfl, fun _ _ => ?_⟩
      refine Discipline.Safe.bind (ih _ ?_ (Covers.ackRows i _ hcov' a)) fun _ _ _ _ => trivial
      rw [OpenAck, World.eventsOf_after_self]
      refine ⟨?_, fun e he rows => ?_⟩
      · obtain ⟨e, he, hstmt⟩ := hopen'.1
        exact ⟨e, List.mem_cons_of_mem _ he, hstmt⟩
      · rcases List.mem_cons.mp he with rfl | he
        · simp
        · exact hopen'.2 e he rows

/-- The rows a cumulative ack reads are the ones it has to settle. -/
lemma covers_ackableUpTo (w : World lang Store) (i : ℕ) (agentId : AgentId) (u : ℕ)
    (a : (Stmt.ackableUpTo agentId u).Answer) :
    Covers (w.after machine i (.ackableUpTo agentId u) a) agentId u
      ((w.store.ackableUpTo agentId u).map fun row => row.delivery.id) := by
  intro r hr hid hle hterm
  obtain ⟨m, hm, hmid⟩ := w.store.hasMessage r hr
  have hsome : (w.store.messageOf r).isSome := by
    rw [Store.messageOf, List.find?_isSome]
    exact ⟨m, hm, by simpa using hmid⟩
  obtain ⟨m', hm'⟩ := Option.isSome_iff_exists.mp hsome
  refine List.mem_map.mpr ⟨⟨r, m'.channelId⟩, ?_, rfl⟩
  refine (List.mem_insertionSort _).mpr (List.mem_filterMap.mpr ⟨r, ?_, by simp [hm']⟩)
  exact Table.mem_select.mpr ⟨hr, by simp [hid, hle, hterm]⟩

lemma ackDeliveriesUpToSeq_safe {i : ℕ} (nodeId : NodeId) (providerName agentName : String)
    (u : ℕ) (w : World lang Store) (hfresh : w.eventsOf i = []) :
    cursorDiscipline.Safe machine noInsertUnderOpenAck.permits i (fun _ _ _ => True)
      (ackDeliveriesUpToSeq nodeId providerName agentName u) () w := by
  refine Discipline.Safe.ask_bind fun w₁ _ hw₁ hI₁ hperm₁ a₁ => ?_
  obtain ⟨hrely₁, hI₁'⟩ := keeps_of_not_movesCursor rfl hI₁ hperm₁ a₁
  -- the agent row decides whether there is anything to acknowledge
  refine ⟨hrely₁, (), hI₁', fun (agent : Option Agent) _ => ?_⟩
  cases agent with
  | none => trivial
  | some agent =>
    dsimp only
    split_ifs
    · trivial
    refine Discipline.Safe.ask_bind fun w₂ _ hw₂ hI₂ hperm₂ a₂ => ?_
    obtain ⟨hrely₂, hI₂'⟩ := keeps_of_not_movesCursor rfl hI₂ hperm₂ a₂
    refine ⟨hrely₂, (), hI₂', fun (pending : List DeliveryWithChannel) hpending => ?_⟩
    obtain rfl : pending = w₂.store.ackableUpTo agent.id u := hpending
    have hcov := covers_ackableUpTo w₂ i agent.id u a₂
    have hopen : OpenAck (w₂.after machine i (.ackableUpTo agent.id u) a₂) i agent.id u := by
      rw [OpenAck, World.eventsOf_after_self, hw₂.1, World.eventsOf_after_self, hw₁.1, hfresh]
      exact ⟨⟨_, List.mem_cons_self, rfl⟩, by simp⟩
    split_ifs with hempty
    · refine Discipline.Safe.ask_bind fun w₃ _ hw₃ hI₃ _ a₃ => ?_
      rw [List.isEmpty_iff.mp hempty] at hcov
      obtain ⟨hrely₃, hI₃'⟩ := keeps_of_covers (i := i) [] hI₃ (hcov.rely hopen hw₃).2 a₃
      exact ⟨hrely₃, (), hI₃', fun _ _ => trivial⟩
    · refine Discipline.Safe.bind (ackChunks_safe _ _ hopen ?_) fun _ _ _ _ => trivial
      rw [flatten_pages]
      exact hcov

/-! ## Every run -/

/-- Only a cumulative ack moves a cursor. -/
lemma not_movesCursor_of_writes {c : Call} {q : Stmt} (hq : q.isRead = true ∨ c.writes q)
    (hc : ∀ nodeId providerName agentName u,
      c ≠ .ackDeliveriesUpToSeq nodeId providerName agentName u) : q.movesCursor = false := by
  cases q with
  | ackRows agentId rows upTo =>
    cases upTo with
    | none => rfl
    | some u =>
      obtain ⟨_, _, _, _, rfl⟩ := writes_ackRows_some (hq.resolve_left (by simp [Stmt.isRead]))
      exact absurd rfl (hc _ _ _ _)
  | _ => rfl

lemma cursorDiscipline_keeps : cursorDiscipline.Keeps service noInsertUnderOpenAck
    (fun _ _ _ _ _ => True) where
  init s hs r hr := by simp [Table.mem_def, show s.deliveries.rows = [] from hs] at hr
  drift_inv d w _ h := by
    cases d with
    | profile agentId name status locationType locationNodeId providerName lastSeen =>
      intro r hr ag' hag' hid hterm
      have hupdate : ag' ∈ w.store.agents.update (fun a => a.id == agentId)
          (profiledAgent name status locationType locationNodeId providerName lastSeen)
          (key_profiledAgent _ _ _ _ _ _) := hag'
      rcases Table.mem_update_cases hupdate with ⟨hag, -⟩ | ⟨ag, hag, -, rfl⟩
      · exact h r hr ag' hag hid hterm
      · exact h r hr ag hag hid hterm
    | _ => exact h
  drift_rely d w i := by
    refine ⟨rfl, fun r hr hterm => .inl ⟨r, ?_, rfl, hterm⟩⟩
    cases d <;> exact hr
  call c _ i w n hfresh hI := by
    by_cases hc : ∃ nodeId providerName agentName u,
        c = .ackDeliveriesUpToSeq nodeId providerName agentName u
    · obtain ⟨nodeId, providerName, agentName, u, rfl⟩ := hc
      exact ackDeliveriesUpToSeq_safe _ _ _ _ _ (World.eventsOf_eq_nil w i hfresh)
    · refine (Discipline.Safe.of_issues (body_issues c) ?_ _ w).mono fun _ _ _ _ => trivial
      intro w n q hq hI hperm a
      refine keeps_of_not_movesCursor (not_movesCursor_of_writes hq ?_) hI hperm a
      exact fun nodeId providerName agentName u h => hc ⟨_, _, _, _, h⟩

/-- **Every queued or delivered row stays visible to replay** in every run in which no message
write allocates a sequence at or below the `up_to_seq` of a cumulative ack of the same agent that
has read its rows and not yet moved the cursor. -/
theorem replayVisible_of_noInsertUnderOpenAck {g : Config lang Store Call.Result}
    (h : service.Reachable noInsertUnderOpenAck g) : ReplayVisible g.world.store := by
  obtain ⟨_, hI⟩ := cursorDiscipline_keeps.inv_of_reachable h
  exact CursorBelow.replayVisible hI

/-! ## An acknowledgement ahead of the allocator -/

instance (s : Store) : Decidable (ReplayVisible s) :=
  inferInstanceAs (Decidable (∀ r ∈ s.deliveries.rows, ∀ a ∈ s.agents.rows,
    a.id = r.agentId → r.status.isActive = true → a.deliveryAckSeq < r.seq))

/-- The node acknowledges up to 5 for an agent that has no delivery; one is inserted between the
ack's read and its batch. -/
def ackAheadOfAllocator : List service.Move :=
  [.start (.ackDeliveriesUpToSeq "node" "default" "worker" 5),
    .exec 0 (steady 1000000 true), .exec 0 (steady 1000000 true),
    .start (directMessage "1" 100 none), .exec 1 (steady 1000000 true),
    .exec 0 (steady 1000000 true)]

/-- **A cumulative ack beyond the allocator hides a queued row from replay.** -/
theorem not_replayVisible_ackAheadOfAllocator :
    ¬ ∀ g : Config lang Store Call.Result,
      service.Reachable (Regime.free lang Store Call) g → ReplayVisible g.world.store := by
  intro h
  have hreach := service.runFrom_reachable (s := oneAgent 0) rfl ackAheadOfAllocator
  exact absurd (h _ hreach) (by decide +kernel)

/-- The condition holds, for instance, of every run without a cumulative ack: one in which a
message is delivered and stays queued. -/
theorem replayVisible_of_noInsertUnderOpenAck_oneAgent :
    ReplayVisible (service.runFrom (oneAgent 3) [.start (directMessage "1" 100 none),
      .exec 0 (steady 1000000 true)]).world.store := by
  refine replayVisible_of_noInsertUnderOpenAck
    (service.runFrom_reachable_of _ (s := oneAgent 3) rfl ⟨trivial, fun c q k _ => ?_, trivial⟩)
  rintro m write - i agentId u ⟨⟨e, he, -⟩, -⟩
  exact absurd he List.not_mem_nil

end Delivery
