import Relaycast.Delivery.Statements

/-!
# What a statement does

Every statement but a message write acts on the delivery rows one by one: it removes some and maps
the others through `Stmt.effect`.  A message write appends rows.  `run_rows`, `run_agents` and
`Inserted` say this once for all statements; the invariants of the delivery tables are read off
from here, without opening a statement again.
-/

namespace Delivery

open Relational Interleaving

/-- The updates of `deliveries.status`, with what their statements embed. -/
inductive Update
  | ack (ids : List DeliveryId) (now : Millis)
  | fail (deliveryId : DeliveryId) (error : Option String) (retryable : Option Bool) (now : Millis)
  | defer (deliveryId : DeliveryId) (availableAt : Millis) (reason : Option String)
      (policy : Option WorkspaceDeliveryPolicy) (now : Millis)
  | deliver (ids : List DeliveryId) (now : Seconds)
  | read (messageId : MessageId) (agentId : AgentId) (now : Millis)
  | expire (ids : List DeliveryId) (now : Millis)
  | unreachable (ids : List DeliveryId) (staleBefore : Seconds) (now : Millis)

namespace Update

/-- The rows an update hits. -/
def hits (s : Store) : Update → Row → Bool
  | ack ids _ => Store.ackableIn ids
  | fail deliveryId _ _ _ => Store.failable deliveryId
  | defer deliveryId availableAt reason policy _ =>
    s.deferrable deliveryId availableAt reason policy
  | deliver ids _ => Store.deliverable ids
  | read messageId agentId _ => Store.readable messageId agentId
  | expire ids _ => Store.expirable ids
  | unreachable ids staleBefore _ => s.unreachable ids staleBefore

/-- What an update does to a row it hits. -/
def change : Update → Row → Row
  | ack _ now => Store.ackedRow now
  | fail _ error retryable now => Store.failedRow error retryable now
  | defer _ availableAt reason _ now => Store.deferredRow availableAt reason now
  | deliver _ now => Store.deliveredRow now
  | read _ _ now => Store.readRow now
  | expire _ now => Store.deadRow "delivery TTL expired" now
  | unreachable _ _ now => Store.deadRow "target node unreachable" now

/-- The status an update writes. -/
def target : Update → DeliveryStatus
  | ack .. | read .. => .acked
  | fail .. => .failed
  | defer .. => .queued
  | deliver .. => .delivered
  | expire .. | unreachable .. => .deadLettered

lemma key_change (u : Update) : KeepsKey u.change := by
  cases u <;> exact fun _ => rfl

lemma change_status (u : Update) (r : Row) : (u.change r).status = u.target := by
  cases u <;> rfl

lemma change_expiresAt (u : Update) (r : Row) : (u.change r).expiresAt = r.expiresAt := by
  cases u <;> rfl

/-- **No update hits a row that is acked or dead-lettered.** -/
theorem not_isTerminal_of_hits {u : Update} {s : Store} {r : Row} (h : u.hits s r = true) :
    r.status.isTerminal = false := by
  cases u with
  | ack ids now => simpa [hits, Store.ackableIn] using (Bool.and_eq_true_iff.mp h).2
  | fail id error retryable now =>
    have hs : r.status.isSettled = false := by
      simpa [hits, Store.failable] using (Bool.and_eq_true_iff.mp h).2
    cases hst : r.status <;> simp_all [DeliveryStatus.isSettled, DeliveryStatus.isTerminal]
  | defer id availableAt reason policy now =>
    simp only [hits, Store.deferrable, Bool.and_eq_true, Bool.not_eq_true'] at h
    exact h.1.1.2
  | deliver ids now =>
    have hs : r.status = .queued := by simpa using (Bool.and_eq_true_iff.mp h).2
    rw [hs]
    rfl
  | read messageId agentId now =>
    exact DeliveryStatus.not_isTerminal_of_isActive (Bool.and_eq_true_iff.mp h).2
  | expire ids now =>
    have hs : r.status.isSettled = false := by
      simpa [hits, Store.expirable] using (Bool.and_eq_true_iff.mp h).2
    cases hst : r.status <;> simp_all [DeliveryStatus.isSettled, DeliveryStatus.isTerminal]
  | unreachable ids staleBefore now =>
    have hs : r.status.isSettled = false := by
      simp only [hits, Store.unreachable, Store.expirable, Bool.and_eq_true] at h
      simpa using h.1.2
    cases hst : r.status <;> simp_all [DeliveryStatus.isSettled, DeliveryStatus.isTerminal]

end Update

namespace Stmt

/-- The update a statement makes, if it makes one. -/
def update : (q : Stmt) → q.Answer → Option Update
  | .ackRows _ rows _, (now : Millis) => some (.ack (rows.map fun row => row.delivery.id) now)
  | .failUpdate deliveryId error retryable, (now : Millis) =>
    some (.fail deliveryId error retryable now)
  | .deferUpdate deliveryId availableAt reason policy, (now : Millis) =>
    some (.defer deliveryId availableAt reason policy now)
  | .markDeliveredPage ids now, _ => some (.deliver ids now)
  | .markReadWrites msg agentId, (now : Millis) => some (.read msg.id agentId now)
  | .expireUpdate ids now, _ => some (.expire ids now)
  | .unreachableUpdate ids staleBefore now, _ => some (.unreachable ids staleBefore now)
  | _, _ => none

/-- What a statement does to a row it does not remove. -/
def effect (q : Stmt) (a : q.Answer) (s : Store) (r : Row) : Row :=
  match q.update a with
  | none => r
  | some u => if u.hits s r then u.change r else r

/-- The rows a statement removes. -/
def removes (s : Store) : Stmt → Row → Bool
  | .pruneDeliveries ids, r => ids.contains r.id && r.status.isSettled
  | .pruneMessages ids, r => s.messages.rows.any fun m =>
      (ids.contains m.id && !s.messages.rows.any fun reply => reply.threadId == some m.id) &&
        m.id == r.messageId
  | .recoverExpired ids cutoff, r =>
    ids.contains r.id && r.status.isActive && r.expiresAt.any fun e => decide (e < cutoff)
  | _, _ => false

/-- Is this a message write? -/
def isMessageWrite : Stmt → Bool
  | .writeMessage .. => true
  | _ => false

lemma effect_cases (q : Stmt) (a : q.Answer) (s : Store) (r : Row) :
    q.effect a s r = r ∨
      ∃ u, q.update a = some u ∧ u.hits s r = true ∧ q.effect a s r = u.change r := by
  unfold effect
  cases hu : q.update a with
  | none => exact .inl rfl
  | some u =>
    by_cases hr : u.hits s r = true
    · exact .inr ⟨u, rfl, hr, by simp [hr]⟩
    · exact .inl (by simp [hr])

lemma key_effect (q : Stmt) (a : q.Answer) (s : Store) : KeepsKey (q.effect a s) := by
  intro r
  rcases q.effect_cases a s r with h | ⟨u, _, _, h⟩
  · rw [h]
  · rw [h, u.key_change]

/-- **What is acked or dead-lettered stays as it is.** -/
theorem effect_of_isTerminal (q : Stmt) (a : q.Answer) (s : Store) {r : Row}
    (hr : r.status.isTerminal = true) : q.effect a s r = r := by
  rcases q.effect_cases a s r with h | ⟨u, _, hits, _⟩
  · exact h
  · simp [Update.not_isTerminal_of_hits hits] at hr

lemma effect_expiresAt (q : Stmt) (a : q.Answer) (s : Store) (r : Row) :
    (q.effect a s r).expiresAt = r.expiresAt := by
  rcases q.effect_cases a s r with h | ⟨u, _, _, h⟩
  · rw [h]
  · rw [h, u.change_expiresAt]

end Stmt

/-! ## Reads, updates and deletes -/

namespace Store

lemma readCursorWrites_deliveries (s : Store) (agentId : AgentId) (row : DeliveryWithChannel) :
    (s.readCursorWrites agentId row).deliveries = s.deliveries := by
  unfold readCursorWrites
  split_ifs <;> rfl

lemma readCursorWrites_agents (s : Store) (agentId : AgentId) (row : DeliveryWithChannel) :
    (s.readCursorWrites agentId row).agents = s.agents := by
  unfold readCursorWrites
  split_ifs <;> rfl

lemma readCursorWrites_clock (s : Store) (agentId : AgentId) (row : DeliveryWithChannel) :
    (s.readCursorWrites agentId row).clock = s.clock := by
  unfold readCursorWrites
  split_ifs <;> rfl

lemma foldl_readCursorWrites (agentId : AgentId) (rows : List DeliveryWithChannel) (s : Store) :
    (rows.foldl (fun s row => s.readCursorWrites agentId row) s).deliveries = s.deliveries ∧
      (rows.foldl (fun s row => s.readCursorWrites agentId row) s).agents = s.agents ∧
      (rows.foldl (fun s row => s.readCursorWrites agentId row) s).clock = s.clock := by
  induction rows generalizing s with
  | nil => exact ⟨rfl, rfl, rfl⟩
  | cons row rows ih =>
    obtain ⟨hd, ha, hc⟩ := ih (s.readCursorWrites agentId row)
    exact ⟨hd.trans (s.readCursorWrites_deliveries agentId row),
      ha.trans (s.readCursorWrites_agents agentId row),
      hc.trans (s.readCursorWrites_clock agentId row)⟩

lemma ackRows_rows (s : Store) (agentId : AgentId) (rows : List DeliveryWithChannel)
    (upTo : Option ℕ) (now : Millis) :
    (s.ackRows agentId rows upTo now).2.deliveries.rows = s.deliveries.rows.map fun r =>
      if ackableIn (rows.map fun row => row.delivery.id) r then ackedRow now r else r := by
  simp only [ackRows, updateDeliveries_deliveries, Table.update, foldl_readCursorWrites,
    updateAgents_deliveries]

lemma ackRows_agents (s : Store) (agentId : AgentId) (rows : List DeliveryWithChannel)
    (upTo : Option ℕ) (now : Millis) :
    (s.ackRows agentId rows upTo now).2.agents.rows =
      s.agents.rows.map fun a => if a.id == agentId then ackedAgent upTo now a else a := by
  simp only [ackRows, updateDeliveries_agents, foldl_readCursorWrites, updateAgents_agents,
    Table.update]

lemma ackRows_clock (s : Store) (agentId : AgentId) (rows : List DeliveryWithChannel)
    (upTo : Option ℕ) (now : Millis) : (s.ackRows agentId rows upTo now).2.clock = s.clock := by
  simp only [ackRows, updateDeliveries_clock, foldl_readCursorWrites, updateAgents_clock]

/-- The rows an ack reports are the ones it hit, as acked. -/
lemma ackRows_reply (s : Store) (agentId : AgentId) (rows : List DeliveryWithChannel)
    (upTo : Option ℕ) (now : Millis) :
    (s.ackRows agentId rows upTo now).1 =
      (s.deliveries.select (ackableIn (rows.map fun row => row.delivery.id))).map
        (ackedRow now) := by
  simp only [ackRows, Table.returning, foldl_readCursorWrites, updateAgents_deliveries]

lemma markReadWrites_rows (s : Store) (msg : Message) (agentId : AgentId) (now : Millis) :
    (s.markReadWrites msg agentId now).2.deliveries.rows = s.deliveries.rows.map fun r =>
      if readable msg.id agentId r then readRow now r else r := by
  unfold markReadWrites
  split_ifs with h
  · rfl
  · -- the message is gone, and its deliveries with it
    have hmiss : ∀ r ∈ s.deliveries.rows, readable msg.id agentId r = false := by
      intro r hr
      obtain ⟨m, hm, hid⟩ := s.hasMessage r hr
      have hne : r.messageId ≠ msg.id := fun heq =>
        h (List.any_eq_true.mpr ⟨m, hm, by simp [hid, heq]⟩)
      simp [readable, hne]
    calc s.deliveries.rows
        = s.deliveries.rows.map fun r => r := (List.map_id' _).symm
      _ = _ := List.map_congr_left fun r hr => by simp [hmiss r hr]

end Store

/-- **Every statement but a message write removes rows and maps the others.** -/
theorem run_rows (q : Stmt) (a : q.Answer) (s : Store) (hq : q.isMessageWrite = false) :
    (run q a s).2.deliveries.rows =
      (s.deliveries.rows.filter fun r => !q.removes s r).map (q.effect a s) := by
  have hread : ∀ rows : List Row, (rows.filter fun _ => !false).map (fun r => r) = rows := by simp
  have hkeep : ∀ rows : List Row, (rows.filter fun _ => !false) = rows := by simp
  cases q with
  | writeMessage => simp [Stmt.isMessageWrite] at hq
  | ackRows agentId rows upTo =>
    refine (Store.ackRows_rows s agentId rows upTo a).trans ?_
    simp only [Stmt.removes, hkeep]
    rfl
  | markReadWrites msg agentId =>
    refine (Store.markReadWrites_rows s msg agentId a).trans ?_
    simp only [Stmt.removes, hkeep]
    rfl
  | failUpdate | deferUpdate | markDeliveredPage | expireUpdate | unreachableUpdate =>
    simp only [Stmt.removes, hkeep]
    rfl
  | pruneDeliveries | pruneMessages | recoverExpired =>
    exact (List.map_id' _).symm
  | _ => exact (hread _).symm

/-- What a statement other than a message write does to an agent's row. -/
def Stmt.agentEffect : (q : Stmt) → q.Answer → Agent → Agent
  | .ackRows agentId _ advanceCursorTo, (now : Millis), a =>
    if a.id == agentId then Store.ackedAgent advanceCursorTo now a else a
  | _, _, a => a

/-- Only an ack touches the agents. -/
lemma run_agents (q : Stmt) (a : q.Answer) (s : Store) (hq : q.isMessageWrite = false) :
    (run q a s).2.agents.rows = s.agents.rows.map (q.agentEffect a) := by
  cases q with
  | writeMessage => simp [Stmt.isMessageWrite] at hq
  | ackRows agentId rows upTo => exact Store.ackRows_agents s agentId rows upTo a
  | markReadWrites msg agentId =>
    have hagents : (s.markReadWrites msg agentId a).2.agents = s.agents := by
      unfold Store.markReadWrites
      split_ifs <;> rfl
    exact (congrArg Table.rows hagents).trans (List.map_id' _).symm
  | _ => exact (List.map_id' _).symm

/-! ## Message writes -/

/-- `s'` is `s` with the rows `added` appended, each within the sequence high-water its agent is
left with. -/
structure Inserted (s s' : Store) (added : List Row) : Prop where
  clock : s'.clock = s.clock
  rows : s'.deliveries.rows = s.deliveries.rows ++ added
  agents : ∃ f : Agent → ℕ,
    s'.agents.rows = s.agents.rows.map (fun a => a.advanceSeq (f a)) ∧
      ∀ r ∈ added, ∀ a ∈ s.agents, a.id = r.agentId → r.seq ≤ f a

namespace Inserted

lemma refl (s : Store) : Inserted s s [] where
  clock := rfl
  rows := (List.append_nil _).symm
  agents := by
    refine ⟨fun a => a.deliverySeq, ?_, by simp⟩
    calc s.agents.rows
        = s.agents.rows.map fun a => a := (List.map_id' _).symm
      _ = _ := List.map_congr_left fun a _ => by simp [Agent.advanceSeq]

lemma trans {s₁ s₂ s₃ : Store} {added added' : List Row} (h : Inserted s₁ s₂ added)
    (h' : Inserted s₂ s₃ added') : Inserted s₁ s₃ (added ++ added') where
  clock := h'.clock.trans h.clock
  rows := by rw [h'.rows, h.rows, List.append_assoc]
  agents := by
    obtain ⟨f, hf, hadded⟩ := h.agents
    obtain ⟨g, hg, hadded'⟩ := h'.agents
    refine ⟨fun a => max (f a) (g (a.advanceSeq (f a))), ?_, fun r hr a ha hid => ?_⟩
    · rw [hg, hf, List.map_map]
      refine List.map_congr_left fun a _ => ?_
      simp [Agent.advanceSeq, max_assoc]
    · rcases List.mem_append.mp hr with hr | hr
      · exact (hadded r hr a ha hid).trans (le_max_left _ _)
      · have ha' : a.advanceSeq (f a) ∈ s₂.agents := by
          rw [Table.mem_def, hf]
          exact List.mem_map_of_mem ha
        exact (hadded' r hr _ ha' hid).trans (le_max_right _ _)

end Inserted

lemma addDelivery_inserted (s : Store) (r : Row) (hr : ∃ m ∈ s.messages, m.id = r.messageId) :
    ∃ added, added.Sublist [r] ∧ Inserted s (s.addDelivery r hr) added := by
  unfold Store.addDelivery
  split_ifs with hc
  · exact ⟨[], List.nil_sublist _, .refl s⟩
  · have hc' : s.deliveries.conflicts r = false := by simpa using hc
    refine ⟨[r], List.Sublist.refl _, rfl, ?_, fun a => if a.id == r.agentId then r.seq else 0,
      List.map_congr_left fun a _ => ?_, fun r' hr' a _ hid => ?_⟩
    · simp [Table.insertOrIgnore, hc', Table.insert]
    · by_cases hid : a.id == r.agentId <;> simp [hid, Agent.advanceSeq]
    · obtain rfl : r' = r := by simpa using hr'
      simp [hid]

/-- A candidate that is inserted was allowed by both guards. -/
lemma insertCandidate_ok {allowed : Bool} {s s' : Store} {c : Candidate}
    (h : insertCandidate allowed s c = .ok s') :
    allowed = true ∧ c.workspaceNull = false ∧
      ∃ added, added.Sublist [c.row] ∧ Inserted s s' added := by
  unfold insertCandidate at h
  split_ifs at h with hallowed hnull hmsg
  obtain rfl : s.addDelivery c.row hmsg = s' := by simpa using h
  exact ⟨by simpa using hallowed, by simpa using hnull, addDelivery_inserted s c.row hmsg⟩

/-- A delivery statement that succeeds appends some of its candidates, all of them allowed. -/
lemma foldlM_insertCandidate_ok {allowed : Bool} {cs : List Candidate} {s s' : Store}
    (h : cs.foldlM (insertCandidate allowed) s = .ok s') :
    (cs ≠ [] → allowed = true) ∧ (∀ c ∈ cs, c.workspaceNull = false) ∧
      ∃ added, added.Sublist (cs.map Candidate.row) ∧ Inserted s s' added := by
  induction cs generalizing s with
  | nil =>
    obtain rfl : s = s' := by simpa [pure, Except.pure] using h
    exact ⟨by simp, by simp, [], List.Sublist.refl _, .refl s⟩
  | cons c cs ih =>
    rw [List.foldlM_cons] at h
    cases hc : insertCandidate allowed s c with
    | error e => simp [hc, bind, Except.bind] at h
    | ok s₁ =>
      have hrest : cs.foldlM (insertCandidate allowed) s₁ = .ok s' := by
        simpa [hc, bind, Except.bind] using h
      obtain ⟨hallowed, hnull, added, hsub, hins⟩ := insertCandidate_ok hc
      obtain ⟨-, hnull', added', hsub', hins'⟩ := ih hrest
      refine ⟨fun _ => hallowed, ?_, added ++ added', ?_, hins.trans hins'⟩
      · simpa using ⟨hnull, hnull'⟩
      · simpa using hsub.append hsub'

lemma insertMessage_inserted {s s' : Store} {m : Message} (h : insertMessage s m = .ok s') :
    Inserted s s' [] ∧ ∀ w : DeliveryWrite, w.candidates s' = w.candidates s ∧
      ∀ p audience count, capacityAllowed s' p audience count = capacityAllowed s p audience count := by
  unfold insertMessage at h
  split_ifs at h with hc
  obtain rfl : s.addMessage m hc = s' := by simpa using h
  exact ⟨⟨(Inserted.refl s).clock, (Inserted.refl s).rows, (Inserted.refl s).agents⟩,
    fun w => ⟨by cases w <;> rfl, fun _ _ _ => rfl⟩⟩

/-- **What a message write does when it succeeds**: it appends some of its candidates, none of
which a guard refused. -/
theorem writeMessage_ok {s s' : Store} {m : Option Message} {w : DeliveryWrite}
    (h : writeMessage s m w = .ok s') :
    (w.candidates s ≠ [] →
      capacityAllowed s w.workspacePolicy w.audience (w.candidates s).length = true) ∧
      (∀ c ∈ w.candidates s, c.workspaceNull = false) ∧
      ∃ added, added.Sublist ((w.candidates s).map Candidate.row) ∧ Inserted s s' added := by
  cases m with
  | none => exact foldlM_insertCandidate_ok h
  | some m =>
    cases hm : insertMessage s m with
    | error e => simp [writeMessage, hm, bind, Except.bind] at h
    | ok s₁ =>
      have hrest : insertDeliveries s₁ w = .ok s' := by
        simpa [writeMessage, hm, bind, Except.bind] using h
      obtain ⟨hins, hsame⟩ := insertMessage_inserted hm
      obtain ⟨hcand, hcap⟩ := hsame w
      obtain ⟨hallowed, hnull, added, hsub, hins'⟩ := foldlM_insertCandidate_ok hrest
      rw [hcand] at hallowed hnull hsub
      refine ⟨fun hne => ?_, hnull, added, hsub, ?_⟩
      · rw [← hcap]
        exact hallowed hne
      · simpa using hins.trans hins'

/-- Every candidate is a new row for a stored agent. -/
lemma candidate_newRow {s : Store} {w : DeliveryWrite} {c : Candidate} (hc : c ∈ w.candidates s) :
    ∃ a ∈ s.agents, ∃ id reason, c.row = newRow s w.envelope id reason a ∧
      (c.workspaceNull = false → s.belowDepthCap a.id w.depthCap = true) := by
  cases w with
  | channel input =>
    obtain ⟨member, _, hm⟩ := List.mem_filterMap.mp hc
    obtain ⟨a, ha, hguard⟩ := Option.bind_eq_some_iff.mp hm
    dsimp only at hguard
    split_ifs at hguard with hcond
    obtain rfl := Option.some.inj hguard
    refine ⟨a, List.mem_of_find?_eq_some ha, _, _, rfl, fun hnull => ?_⟩
    simp only [Bool.and_eq_true, Bool.or_eq_true] at hcond
    rcases hcond.2 with hreject | hbelow
    · have hbelow : s.belowDepthCap a.id input.depthCap = true := by
        simpa [hreject] using hnull
      exact hbelow
    · exact hbelow
  | groupDm input =>
    obtain ⟨member, _, hm⟩ := List.mem_filterMap.mp hc
    obtain ⟨a, ha, hguard⟩ := Option.bind_eq_some_iff.mp hm
    split_ifs at hguard with hcond
    obtain rfl := Option.some.inj hguard
    refine ⟨a, List.mem_of_find?_eq_some ha, _, _, rfl, fun _ => ?_⟩
    simp only [Bool.and_eq_true] at hcond
    exact hcond.2
  | direct input =>
    obtain ⟨a, ha, rfl⟩ := List.mem_map.mp hc
    obtain ⟨ha, hcond⟩ := Table.mem_select.mp ha
    simp only [Bool.and_eq_true] at hcond
    exact ⟨a, ha, _, _, rfl, fun _ => hcond.2⟩

/-- A message write leaves the inserted rows, or the store as it was. -/
lemma run_writeMessage (s : Store) (m : Option Message) (w : DeliveryWrite) :
    (∃ s', writeMessage s m w = .ok s' ∧ runWriteMessage s m w = (.ok (), s')) ∨
      ∃ e, writeMessage s m w = .error e ∧ runWriteMessage s m w = (.error e, s) := by
  unfold runWriteMessage
  cases h : writeMessage s m w with
  | ok s' => exact .inl ⟨s', rfl, rfl⟩
  | error e => exact .inr ⟨e, rfl, rfl⟩

/-! ## The clock -/

/-- No statement moves the clock. -/
lemma run_clock (q : Stmt) (a : q.Answer) (s : Store) : (run q a s).2.clock = s.clock := by
  cases q with
  | writeMessage m w =>
    rcases run_writeMessage s m w with ⟨s', hs', hrun⟩ | ⟨e, _, hrun⟩
    · obtain ⟨-, -, added, -, hins⟩ := writeMessage_ok hs'
      exact (congrArg (fun p => p.2.clock) hrun).trans hins.clock
    · exact congrArg (fun p => p.2.clock) hrun
  | ackRows agentId rows upTo => exact Store.ackRows_clock s agentId rows upTo a
  | markReadWrites msg agentId =>
    show (s.markReadWrites msg agentId a).2.clock = s.clock
    unfold Store.markReadWrites
    split_ifs <;> rfl
  | _ => rfl

/-! ## Active rows

A row that counts after a statement counted before, was inserted, or is a failed row that a defer
has put back into the queue. -/

/-- The failed, unexpired rows a statement puts back into the queue. -/
def Stmt.restores (s : Store) : Stmt → Row → Bool
  | .deferUpdate deliveryId availableAt reason policy, r =>
    s.deferrable deliveryId availableAt reason policy r && decide (r.status = .failed) &&
      r.unexpired s.unixepoch
  | _, _ => false

lemma effect_unexpired (q : Stmt) (a : q.Answer) (s : Store) (r : Row) (now : Seconds) :
    (q.effect a s r).unexpired now = r.unexpired now := by
  rw [Row.unexpired, Row.unexpired, q.effect_expiresAt]

/-- What counts after the statement counted before, unless it was restored. -/
lemma countsAt_of_effect {q : Stmt} {a : q.Answer} {s : Store} {r : Row}
    (h : (q.effect a s r).countsAt s.unixepoch = true) :
    r.countsAt s.unixepoch = true ∨ q.restores s r = true := by
  obtain ⟨hactive, hunexpired⟩ := Bool.and_eq_true_iff.mp h
  rw [effect_unexpired] at hunexpired
  rcases q.effect_cases a s r with heq | ⟨u, hu, hits, heq⟩
  · rw [heq] at hactive
    exact .inl (Bool.and_eq_true_iff.mpr ⟨hactive, hunexpired⟩)
  rw [heq, u.change_status] at hactive
  cases u with
  | deliver ids now =>
    have hqueued : r.status = .queued := by simpa using (Bool.and_eq_true_iff.mp hits).2
    exact .inl (Bool.and_eq_true_iff.mpr ⟨by rw [hqueued]; rfl, hunexpired⟩)
  | defer deliveryId availableAt reason policy now =>
    by_cases hr : r.status.isActive = true
    · exact .inl (Bool.and_eq_true_iff.mpr ⟨hr, hunexpired⟩)
    · have hterm := Update.not_isTerminal_of_hits hits
      have hfailed : r.status = .failed := by
        cases hst : r.status <;> simp_all [DeliveryStatus.isActive, DeliveryStatus.isTerminal]
      cases q with
      | deferUpdate deliveryId' availableAt' reason' policy' =>
        have hupdate : Update.defer deliveryId' availableAt' reason' policy' a =
            Update.defer deliveryId availableAt reason policy now := by
          simpa [Stmt.update] using hu
        injection hupdate with hid hat hreason hpolicy
        subst hid hat hreason hpolicy
        refine .inr ?_
        simp only [Stmt.restores, hfailed, hunexpired, decide_true, Bool.and_true]
        exact hits
      | _ => simp [Stmt.update] at hu
  | _ => simp [Update.target, DeliveryStatus.isActive] at hactive

/-- A defer restores at most the one row it names. -/
lemma restores_id {q : Stmt} {s : Store} {r r' : Row} (h : q.restores s r = true)
    (h' : q.restores s r' = true) : r.id = r'.id := by
  cases q with
  | deferUpdate deliveryId availableAt reason policy =>
    simp only [Stmt.restores, Store.deferrable, Bool.and_eq_true, beq_iff_eq] at h h'
    rw [h.1.1.1.1.1, h'.1.1.1.1.1]
  | _ => simp [Stmt.restores] at h

section Count

variable {q : Stmt} {a : q.Answer} {s : Store} (sel : Row → Bool)

/-- **A statement that inserts nothing raises a depth by the rows it restores**, of which there is
at most one. -/
lemma count_run_le (hq : q.isMessageWrite = false)
    (hsel : ∀ r r' : Row, key r = key r' → sel r = sel r') :
    (run q a s).2.deliveries.count (fun r => sel r && r.countsAt s.unixepoch) ≤
      s.deliveries.count (fun r => sel r && r.countsAt s.unixepoch) +
        s.deliveries.count fun r => sel r && q.restores s r := by
  rw [Table.count, run_rows q a s hq, List.countP_map]
  refine (List.filter_sublist.countP_le).trans (countP_le_add fun r _ h => ?_)
  simp only [Function.comp_apply, Bool.and_eq_true] at h ⊢
  rw [hsel _ r (q.key_effect a s r)] at h
  exact (countsAt_of_effect h.2).imp (⟨h.1, ·⟩) (⟨h.1, ·⟩)

lemma count_restores_le_one : s.deliveries.count (fun r => sel r && q.restores s r) ≤ 1 :=
  countP_le_one_of_pairwise (List.pairwise_map.mp s.nodup_ids) fun _ _ _ _ h h' hne =>
    hne (restores_id (Bool.and_eq_true_iff.mp h).2 (Bool.and_eq_true_iff.mp h').2)

/-- As time passes, rows stop counting. -/
lemma countsAt_antitone {now now' : Seconds} (h : now ≤ now') {r : Row}
    (hr : r.countsAt now' = true) : r.countsAt now = true := by
  obtain ⟨hactive, hunexpired⟩ := Bool.and_eq_true_iff.mp hr
  refine Bool.and_eq_true_iff.mpr ⟨hactive, ?_⟩
  unfold Row.unexpired at hunexpired ⊢
  cases hexp : r.expiresAt with
  | none => rfl
  | some e =>
    have hlt : now' < e := by simpa [hexp] using hunexpired
    exact decide_eq_true (h.trans_lt hlt)

/-- A drift does not raise a depth. -/
lemma count_drift_le (d : Drift) :
    (drift d s).deliveries.count (fun r => sel r && r.countsAt (drift d s).unixepoch) ≤
      s.deliveries.count fun r => sel r && r.countsAt s.unixepoch := by
  have hclock : s.unixepoch ≤ (drift d s).unixepoch := by
    cases d with
    | advance ms => exact Nat.div_le_div_right (Nat.le_add_right _ _)
    | _ => exact le_rfl
  have hrows : (drift d s).deliveries = s.deliveries := by cases d <;> rfl
  rw [hrows]
  refine List.countP_mono_left fun r _ h => ?_
  simp only [Bool.and_eq_true] at h ⊢
  exact ⟨h.1, countsAt_antitone hclock h.2⟩

end Count

end Delivery
