import Relaycast.Delivery.OrderedReplay
import Relaycast.Interleaving.Solo

/-!
# What a replay drains

A replay that is left alone, and whose sends and readiness checks all come out well, emits every
eligible row of every mailbox in its scope.  The loop is followed for one such row: as long as the
cursor has not passed it, it is still there for the next page to select.
-/

namespace Delivery

open Relational Interleaving

/-- The outside world accepts every send, finds every agent ready, and reads no clock past the
expiry of `r`. -/
def accepting (r : Row) : (q : Stmt) → q.Answer → Prop
  | .sendToProvider .., (sent : Bool) => sent = true
  | .providerReady .., (isReady : Bool) => isReady = true
  | .hydratePage .., (now : Millis) | .replayCurrent .., (now : Millis) =>
    r.unexpired (toSeconds now) = true
  | _, _ => True

/-- `r` is an active row, past the ack cursor, of an agent in the scope of the replay. -/
structure Eligible (s : Store) (nodeId : NodeId) (scope : NodeDeliveryReplayScope) (r : Row)
    (a : Agent) : Prop where
  stored : r ∈ s.deliveries
  active : r.status.isActive = true
  agent : a ∈ s.agents
  agentId : r.agentId = a.id
  located : a.locationType = "via_node"
  node : a.locationNodeId = some nodeId
  provider : ∀ p, scope.providerName = some p → a.providerName = p
  wanted : ∀ ids, scope.agentIds = some ids → a.id ∈ ids
  unacked : a.deliveryAckSeq < r.seq

/-- The statement emits the frame of `r`. -/
def emits (r : Row) (e : Event lang Store) : Bool :=
  match e.stmt with
  | .sendToProvider _ _ frame =>
    frame.agentId == r.agentId && frame.seq == r.seq && frame.deliveryId == r.id
  | _ => false

/-- Call `i` has emitted the frame of `r`. -/
def Emitted (r : Row) (i : ℕ) (w : World lang Store) : Prop :=
  ∃ e ∈ w.eventsOf i, emits r e = true

/-- The row is still there to be emitted, and its agent is unchanged. -/
def Pending (r : Row) (a : Agent) (w : World lang Store) : Prop :=
  (∃ r' ∈ w.store.deliveries, key r' = key r ∧ r'.status.isActive = true ∧
    r'.expiresAt = r.expiresAt) ∧ a ∈ w.store.agents

/-- A statement of a replay. -/
def Stmt.replays (q : Stmt) : Prop :=
  q.isRead = true ∨ (∃ ids now, q = .markDeliveredPage ids now) ∨
    ∃ nodeId providerName frame, q = .sendToProvider nodeId providerName frame

section Keep

variable {r : Row} {a : Agent} {i : ℕ}

lemma Emitted.after {w : World lang Store} (h : Emitted r i w) (q : Stmt) (b : q.Answer) :
    Emitted r i (w.after machine i q b) := by
  obtain ⟨e, he, hr⟩ := h
  exact ⟨e, by rw [World.eventsOf_after_self]; exact List.mem_cons_of_mem _ he, hr⟩

/-- The statements of a replay leave a row pending. -/
lemma Pending.after {w : World lang Store} (h : Pending r a w) {q : Stmt} (hq : q.replays)
    (b : q.Answer) : Pending r a (w.after machine i q b) := by
  rcases hq with hread | ⟨ids, now, rfl⟩ | ⟨nodeId, providerName, frame, rfl⟩
  · have hstore : (w.after machine i q b).store = w.store := run_isRead hread b w.store
    rw [Pending, hstore]
    exact h
  · obtain ⟨⟨r', hr', hkey, hactive, hexpires⟩, ha⟩ := h
    refine ⟨⟨(Stmt.markDeliveredPage ids now).effect b w.store r', ?_, ?_, ?_, ?_⟩, ha⟩
    · have hrows := run_rows (.markDeliveredPage ids now) b w.store rfl
      rw [World.after_store, Table.mem_def]
      show _ ∈ (run (.markDeliveredPage ids now) b w.store).2.deliveries.rows
      rw [hrows]
      exact List.mem_map_of_mem (List.mem_filter.mpr ⟨hr', rfl⟩)
    · rw [Stmt.key_effect, hkey]
    · rcases Stmt.effect_cases (.markDeliveredPage ids now) b w.store r' with heq | ⟨u, hu, -, heq⟩
      · rw [heq]
        exact hactive
      · obtain rfl := Option.some.inj hu
        rw [heq]
        rfl
    · rw [Stmt.effect_expiresAt, hexpires]
  · exact h

/-- Programs of such statements do, too, and what was emitted stays emitted. -/
lemma alone_keeps {α : Type} {p : Prog lang α} (hp : p.Issues Stmt.replays) {w : World lang Store}
    (h : Pending r a w) : p.Alone machine (accepting r) i
      (fun _ w' => Pending r a w' ∧ (Emitted r i w → Emitted r i w')) w :=
  Prog.Alone.of_issues (K := fun w' => Pending r a w' ∧ (Emitted r i w → Emitted r i w')) hp
    (fun _ q b hq _ hK => ⟨hK.1.after hq b, fun hw => (hK.2 hw).after q b⟩) ⟨h, id⟩

end Keep

/-! ## The reads find a pending row -/

section Reads

variable {r : Row} {a : Agent} {nodeId : NodeId} {recipient : Recipient} {w : World lang Store}

/-- What makes `recipient` the one whose mailbox holds `r`. -/
structure Addressed (nodeId : NodeId) (recipient : Recipient) (r : Row) (a : Agent) : Prop where
  agentId : r.agentId = a.id
  located : a.locationType = "via_node"
  node : a.locationNodeId = some nodeId
  unacked : a.deliveryAckSeq < r.seq
  recipientId : recipient.id = a.id
  provider : recipient.providerName = a.providerName
  ackSeq : recipient.ackSeq = a.deliveryAckSeq

/-- The pending row passes the recheck. -/
lemma Pending.replayable (h : Pending r a w) (hr : Addressed nodeId recipient r a) {now : Seconds}
    (hnow : r.unexpired now = true) : ∃ r' ∈ w.store.deliveries, key r' = key r ∧
      r'.status.isActive = true ∧ (w.store.replayable nodeId recipient now r').isSome = true := by
  obtain ⟨⟨r', hr', hkey, hactive, hexpires⟩, ha⟩ := h
  have hunexpired : r'.unexpired now = true := by
    rw [Row.unexpired, hexpires]
    exact hnow
  have hagent : r'.agentId = r.agentId := congrArg RowKey.agentId hkey
  have hseq : r'.seq = r.seq := congrArg RowKey.seq hkey
  refine ⟨r', hr', hkey, hactive, ?_⟩
  rw [Store.replayable, List.find?_isSome]
  refine ⟨a, ha, ?_⟩
  simp [hagent, hseq, hr.agentId, hr.recipientId, hr.located, hr.node, hr.provider, hr.unacked,
    hactive, hunexpired]

lemma Pending.replayCurrent (h : Pending r a w) (hr : Addressed nodeId recipient r a)
    {now : Seconds} (hnow : r.unexpired now = true) :
    w.store.replayCurrent nodeId recipient r.id now = true := by
  obtain ⟨r', hr', hkey, -, hsome⟩ := h.replayable hr hnow
  have hid : r'.id = r.id := congrArg RowKey.id hkey
  exact List.any_eq_true.mpr ⟨r', hr', by simp [hid, hsome]⟩

/-- A page that names the pending row hydrates it. -/
lemma Pending.mem_hydratePage (h : Pending r a w) (hr : Addressed nodeId recipient r a)
    {now : Seconds} (hnow : r.unexpired now = true) {ids : List DeliveryId} (hids : r.id ∈ ids) :
    ∃ row ∈ w.store.hydratePage nodeId recipient ids now, key row.delivery = key r := by
  obtain ⟨r', hr', hkey, -, hsome⟩ := h.replayable hr hnow
  obtain ⟨a', ha'⟩ := Option.isSome_iff_exists.mp hsome
  obtain ⟨m, hm, hmid⟩ := w.store.hasMessage r' hr'
  have hmessage : (w.store.messageOf r').isSome := by
    rw [Store.messageOf, List.find?_isSome]
    exact ⟨m, hm, by simpa using hmid⟩
  obtain ⟨m', hm'⟩ := Option.isSome_iff_exists.mp hmessage
  have hid : r'.id = r.id := congrArg RowKey.id hkey
  have hselected : r' ∈ w.store.deliveries.select fun r => ids.contains r.id :=
    Table.mem_select.mpr ⟨hr', by simpa [hid] using hids⟩
  refine ⟨⟨r', a'.name, m'.threadId, (w.store.dmConversations.rows.find? fun c =>
    c.channelId == m'.channelId).map DmConversation.dmType⟩,
    (List.mem_insertionSort _).mpr (List.mem_filterMap.mpr ⟨r', hselected, ?_⟩), hkey⟩
  rw [ha', hm']
  rfl

/-- A pending row between the cursor and the mark is on the page, or beyond it. -/
lemma Pending.mem_replayPage (h : Pending r a w) (hr : r.agentId = a.id) {cursor mark : ℕ}
    (hcursor : cursor < r.seq) (hmark : r.seq ≤ mark) :
    ∃ last, (w.store.replayPage a.id cursor mark).getLast? = some last ∧
      (r.seq ≤ last.2 → r.id ∈ (w.store.replayPage a.id cursor mark).map Prod.fst) := by
  obtain ⟨⟨r', hr', hkey, hactive, -⟩, -⟩ := h
  have hid : r'.id = r.id := congrArg RowKey.id hkey
  have hseq : r'.seq = r.seq := congrArg RowKey.seq hkey
  have hagent : r'.agentId = a.id := (congrArg RowKey.agentId hkey).trans hr
  -- the row is in the sorted selection the page is a prefix of
  have hall : (r.id, r.seq) ∈ ((w.store.deliveries.select fun r =>
      r.agentId == a.id && r.status.isActive && decide (cursor < r.seq) &&
        decide (r.seq ≤ mark)).map fun r => (r.id, r.seq)).insertionSort fun x y => x.2 ≤ y.2 := by
    refine (List.mem_insertionSort _).mpr (List.mem_map.mpr ⟨r', ?_, by rw [hid, hseq]⟩)
    exact Table.mem_select.mpr ⟨hr', by simp [hagent, hactive, hseq, hcursor, hmark]⟩
  have hne : w.store.replayPage a.id cursor mark ≠ [] := by
    intro hnil
    have hnil := List.take_eq_nil_iff.mp hnil
    rcases hnil with hzero | hempty
    · simp at hzero
    · rw [hempty] at hall
      exact List.not_mem_nil hall
  refine ⟨_, List.getLast?_eq_some_getLast hne, fun hle => ?_⟩
  have htrans : IsTrans (DeliveryId × ℕ) fun x y => x.2 ≤ y.2 := ⟨fun _ _ _ h h' => h.trans h'⟩
  have htotal : Std.Total fun x y : DeliveryId × ℕ => x.2 ≤ y.2 := ⟨fun x y => le_total x.2 y.2⟩
  have hsorted := List.pairwise_insertionSort (fun x y : DeliveryId × ℕ => x.2 ≤ y.2)
    ((w.store.deliveries.select fun r => r.agentId == a.id && r.status.isActive &&
      decide (cursor < r.seq) && decide (r.seq ≤ mark)).map fun r => (r.id, r.seq))
  rw [← List.take_append_drop 50 (List.insertionSort _ _)] at hall hsorted
  rcases List.mem_append.mp hall with hpage | hrest
  · exact List.mem_map.mpr ⟨_, hpage, rfl⟩
  · -- sorted after the page and yet not above its last row: it is that row
    have hlast := List.getLast_mem hne
    have hge := (List.pairwise_append.mp hsorted).2.2 _ hlast _ hrest
    obtain ⟨r'', hr'', hid'', hseq'', hagent'', -⟩ := Store.mem_replayPage hlast
    have hsame : r'' = r' := w.store.row_ext_seq hr'' hr' (hagent''.trans hagent.symm)
      (by rw [hseq'', hseq]; exact le_antisymm hge hle)
    rw [← hid, ← hsame, hid'']
    exact List.mem_map_of_mem hlast

/-- The mark is not below a pending row. -/
lemma Pending.highWater (h : Pending r a w) (hr : r.agentId = a.id) :
    ∃ mark, w.store.highWater a.id = some mark ∧ r.seq ≤ mark := by
  obtain ⟨⟨r', hr', hkey, -, -⟩, -⟩ := h
  have hseq : r'.seq = r.seq := congrArg RowKey.seq hkey
  have hagent : r'.agentId = a.id := (congrArg RowKey.agentId hkey).trans hr
  have hmem : r.seq ∈ (w.store.deliveries.select fun r => r.agentId == a.id).map Row.seq :=
    List.mem_map.mpr ⟨r', Table.mem_select.mpr ⟨hr', by simp [hagent]⟩, hseq⟩
  cases hmax : w.store.highWater a.id with
  | none =>
    rw [Store.highWater, List.max?_eq_none_iff] at hmax
    rw [hmax] at hmem
    exact absurd hmem List.not_mem_nil
  | some mark => exact ⟨mark, rfl, (List.max?_le_iff hmax).mp le_rfl _ hmem⟩

end Reads

/-! ## The drain, for one row -/

section Drain

variable {r : Row} {a : Agent} {nodeId : NodeId} {recipient : Recipient} {i : ℕ}

/-- Left alone as call `i`, with sends and readiness checks accepted. -/
abbrev Drains {α : Type} (r : Row) (i : ℕ) (Q : α → World lang Store → Prop) (p : Prog lang α)
    (w : World lang Store) : Prop := p.Alone machine (accepting r) i Q w

/-- A page that holds the row is not interrupted and emits it. -/
lemma sendRows_drains (hr : Addressed nodeId recipient r a) (rows : List PendingDelivery)
    (hkeys : ∀ row ∈ rows, row.delivery.id = r.id → key row.delivery = key r)
    {w : World lang Store} (h : Pending r a w) :
    Drains r i (fun out w' => out.2 = false ∧ Pending r a w' ∧
        (Emitted r i w ∨ r.id ∈ rows.map (fun row => row.delivery.id) → Emitted r i w'))
      (sendRows nodeId recipient rows) w := by
  induction rows generalizing w with
  | nil => exact ⟨rfl, h, fun hor => hor.resolve_right List.not_mem_nil⟩
  | cons row rest ih =>
    have hrest := fun row' hrow' => hkeys row' (List.mem_cons_of_mem _ hrow')
    refine Prog.Alone.ask_bind fun now hnow (current : Bool) hcurrent => ?_
    have h₁ := h.after (i := i) (q := .replayCurrent nodeId recipient row.delivery.id)
      (.inl rfl) now
    cases current with
    | false =>
      refine (ih hrest h₁).mono fun out w' hout => ⟨hout.1, hout.2.1, fun hor => hout.2.2 ?_⟩
      rcases hor with hemitted | hmem
      · exact .inl (hemitted.after _ _)
      · rw [List.map_cons, List.mem_cons] at hmem
        rcases hmem with hid | hmem
        · -- the recheck finds the pending row
          have htrue : w.store.replayCurrent nodeId recipient row.delivery.id (toSeconds now) =
              true := hid ▸ h.replayCurrent hr hnow
          exact absurd (hcurrent.trans htrue) Bool.false_ne_true
        · exact .inr hmem
    | true =>
      refine Prog.Alone.ask_bind fun a₂ ha₂ (isReady : Bool) hready => ?_
      obtain rfl : isReady = true := hready.trans ha₂
      have h₂ := h₁.after (i := i)
        (q := .providerReady nodeId recipient.providerName recipient.id) (.inl rfl) a₂
      refine Prog.Alone.ask_bind fun a₃ ha₃ (sent : Bool) hsent => ?_
      obtain rfl : sent = true := hsent.trans ha₃
      have h₃ := h₂.after (i := i) (q := .sendToProvider nodeId recipient.providerName
        (buildDeliverFrame recipient row)) (.inr (.inr ⟨_, _, _, rfl⟩)) a₃
      refine Prog.Alone.bind (ih hrest h₃) ?_
      rintro ⟨ids, interrupted⟩ w' ⟨hout, hpending, hemitted⟩
      refine ⟨hout, hpending, fun hor => hemitted ?_⟩
      rcases hor with hbefore | hmem
      · exact .inl (((hbefore.after _ _).after _ _).after _ _)
      · rw [List.map_cons, List.mem_cons] at hmem
        rcases hmem with hid | hmem
        · have hkey := hkeys row List.mem_cons_self hid.symm
          have hseq : row.delivery.seq = r.seq := congrArg RowKey.seq hkey
          refine .inl ⟨_, by rw [World.eventsOf_after_self]; exact List.mem_cons_self, ?_⟩
          show (recipient.id == r.agentId && row.delivery.seq == r.seq &&
            row.delivery.id == r.id) = true
          simp [hr.recipientId, hr.agentId, hseq, hid]
        · exact .inr hmem

lemma markDeliveriesDelivered_replays (ids : List DeliveryId) :
    (markDeliveriesDelivered ids).Issues Stmt.replays :=
  markDeliveriesDelivered_issues (fun _ hq => .inl hq) (fun _ _ => .inr (.inl ⟨_, _, rfl⟩)) ids

/-- A page that names the row emits it, and the drain goes on. -/
lemma drainPage_drains (hr : Addressed nodeId recipient r a) (ids : List DeliveryId)
    {w : World lang Store} (h : Pending r a w) :
    Drains r i (fun out w' => out.2 = true ∧ Pending r a w' ∧
        (Emitted r i w ∨ r.id ∈ ids → Emitted r i w'))
      (drainPage nodeId recipient ids) w := by
  refine Prog.Alone.ask_bind fun now hnow (rows : List PendingDelivery) hrows => ?_
  obtain rfl : rows = w.store.hydratePage nodeId recipient ids (toSeconds now) := hrows
  have h₁ := h.after (i := i) (q := .hydratePage nodeId recipient ids) (.inl rfl) now
  refine Prog.Alone.ask_bind fun a₂ _ _ _ => ?_
  have h₂ := h₁.after (i := i) (q := .fetchAttachments ((w.store.hydratePage nodeId recipient ids
    (toSeconds now)).map fun row => row.delivery.messageId).eraseDups) (.inl rfl) a₂
  have hkeys : ∀ row ∈ w.store.hydratePage nodeId recipient ids (toSeconds now),
      row.delivery.id = r.id → key row.delivery = key r := by
    intro row hrow hid
    obtain ⟨⟨r', hr', hkey, -, -⟩, -⟩ := h
    have hrid : r'.id = r.id := congrArg RowKey.id hkey
    rw [w.store.row_ext (Store.mem_hydratePage hrow).1 hr' (hid.trans hrid.symm), hkey]
  refine Prog.Alone.bind (sendRows_drains hr _ hkeys h₂) ?_
  rintro ⟨deliveredIds, interrupted⟩ w₃ ⟨hout, h₃, hemitted⟩
  obtain rfl : interrupted = false := hout
  have hpage : Emitted r i w ∨ r.id ∈ ids → Emitted r i w₃ := by
    rintro (hbefore | hmem)
    · exact hemitted (.inl ((hbefore.after _ _).after _ _))
    · obtain ⟨row, hrow, hkey⟩ := h.mem_hydratePage hr hnow hmem
      exact hemitted (.inr (List.mem_map.mpr ⟨row, hrow, congrArg RowKey.id hkey⟩))
  refine Prog.Alone.bind (alone_keeps (markDeliveriesDelivered_replays deliveredIds) h₃) ?_
  rintro transitioned w₄ ⟨h₄, hkeep⟩
  split_ifs
  · refine Prog.Alone.ask_bind fun a₅ _ _ _ => ⟨rfl, ?_, fun hor => ?_⟩
    · exact h₄.after (.inl rfl) a₅
    · exact (hkeep (hpage hor)).after (.notifySenders transitioned) a₅
  · exact ⟨rfl, h₄, fun hor => hkeep (hpage hor)⟩

/-- The paging loop reaches the row: whenever the cursor has passed it, it was emitted. -/
lemma drainPages_drains (hr : Addressed nodeId recipient r a) {mark : ℕ} (hmark : r.seq ≤ mark)
    (fuel cursor : ℕ) (hfuel : mark - cursor ≤ fuel) {w : World lang Store}
    (h : Pending r a w) (hcursor : r.seq ≤ cursor → Emitted r i w) :
    Drains r i (fun _ w' => Pending r a w' ∧ Emitted r i w')
      (drainPages nodeId recipient mark fuel cursor) w := by
  induction fuel generalizing cursor w with
  | zero => exact ⟨h, hcursor (by omega)⟩
  | succ fuel ih =>
    unfold drainPages
    split_ifs with hlt
    · refine Prog.Alone.ask_bind fun a₁ ha₁ (isReady : Bool) hready => ?_
      obtain rfl : isReady = true := hready.trans ha₁
      have h₁ := h.after (i := i)
        (q := .providerReady nodeId recipient.providerName recipient.id) (.inl rfl) a₁
      refine Prog.Alone.ask_bind fun a₂ _ (page : List (DeliveryId × ℕ)) hpage => ?_
      obtain rfl : page = (w.after machine i (.providerReady nodeId recipient.providerName
        recipient.id) a₁).store.replayPage recipient.id cursor mark := hpage
      have h₂ := h₁.after (i := i) (q := .replayPage recipient.id cursor mark) (.inl rfl) a₂
      have hpassed : r.seq ≤ cursor → Emitted r i ((w.after machine i (.providerReady nodeId
          recipient.providerName recipient.id) a₁).after machine i
            (.replayPage recipient.id cursor mark) a₂) :=
        fun hle => ((hcursor hle).after _ _).after _ _
      cases hlast : ((w.after machine i (.providerReady nodeId recipient.providerName
          recipient.id) a₁).store.replayPage recipient.id cursor mark).getLast? with
      | none =>
        refine ⟨h₂, hpassed ?_⟩
        by_contra hgt
        obtain ⟨last, hsome, -⟩ := h₁.mem_replayPage hr.agentId (Nat.lt_of_not_le hgt) hmark
        rw [← hr.recipientId, hlast] at hsome
        simp at hsome
      | some last =>
        obtain ⟨r', -, -, hseq, -, hgt, -⟩ := Store.mem_replayPage (List.mem_of_getLast? hlast)
        refine Prog.Alone.bind (drainPage_drains hr _ h₂) ?_
        rintro ⟨sent, goOn⟩ w₃ ⟨hout, h₃, hemitted⟩
        obtain rfl : goOn = true := hout
        refine Prog.Alone.bind (ih last.2 (by omega) h₃ fun hle => ?_)
          fun _ w₄ hw₄ => hw₄
        by_cases hbefore : r.seq ≤ cursor
        · exact hemitted (.inl (hpassed hbefore))
        · obtain ⟨last', hsome, hmem⟩ :=
            h₁.mem_replayPage hr.agentId (Nat.lt_of_not_le hbefore) hmark
          rw [← hr.recipientId] at hsome hmem
          obtain rfl : last = last' := Option.some.inj (hlast.symm.trans hsome)
          exact hemitted (.inr (hmem hle))
    · exact ⟨h, hcursor (by omega)⟩

/-- The drain of its agent emits the row. -/
lemma drainRecipient_drains (hr : Addressed nodeId recipient r a) {w : World lang Store}
    (h : Pending r a w) :
    Drains r i (fun _ w' => Pending r a w' ∧ Emitted r i w') (drainRecipient nodeId recipient)
      w := by
  refine Prog.Alone.ask_bind fun a₁ ha₁ (isReady : Bool) hready => ?_
  obtain rfl : isReady = true := hready.trans ha₁
  have h₁ := h.after (i := i)
    (q := .providerReady nodeId recipient.providerName recipient.id) (.inl rfl) a₁
  refine Prog.Alone.ask_bind fun a₂ _ (mark : Option ℕ) hmark => ?_
  obtain ⟨mark', hsome, hle⟩ := h₁.highWater hr.agentId
  obtain rfl : mark = some mark' := by
    rw [← hsome, ← hr.recipientId]
    exact hmark
  refine drainPages_drains hr hle _ _ le_rfl
    (h₁.after (i := i) (q := .highWater recipient.id) (.inl rfl) a₂) fun hcursor => ?_
  have hlt := hr.unacked
  rw [← hr.ackSeq] at hlt
  omega

end Drain

/-! ## The roster -/

section Roster

variable {r : Row} {a : Agent} {nodeId : NodeId} {i : ℕ}

lemma drainRoster_replays (recipients : List Recipient) :
    (drainRoster nodeId recipients).Issues Stmt.replays :=
  drainRoster_issues (fun _ hq => .inl hq) (fun _ _ => .inr (.inl ⟨_, _, rfl⟩))
    (fun _ _ _ => .inr (.inr ⟨_, _, _, rfl⟩)) nodeId recipients

/-- A roster that holds the row's agent emits the row. -/
lemma drainRoster_drains (recipients : List Recipient) {recipient : Recipient}
    (hmem : recipient ∈ recipients) (hr : Addressed nodeId recipient r a) {w : World lang Store}
    (h : Pending r a w) : Drains r i (fun _ w' => Emitted r i w') (drainRoster nodeId recipients)
      w := by
  induction recipients generalizing w with
  | nil => exact absurd hmem List.not_mem_nil
  | cons first rest ih =>
    by_cases hfirst : recipient = first
    · subst hfirst
      refine Prog.Alone.bind (drainRecipient_drains hr h) fun _ w₁ ⟨h₁, hemitted⟩ => ?_
      refine Prog.Alone.bind (alone_keeps (drainRoster_replays rest) h₁) fun _ w₂ hkeep => ?_
      exact hkeep.2 hemitted
    · have hdrain : (drainRecipient nodeId first).Issues Stmt.replays :=
        drainRecipient_issues (fun _ hq => .inl hq) (fun _ _ => .inr (.inl ⟨_, _, rfl⟩))
          (fun _ _ _ => .inr (.inr ⟨_, _, _, rfl⟩)) nodeId first
      refine Prog.Alone.bind (alone_keeps hdrain h) fun _ w₁ ⟨h₁, _⟩ => ?_
      exact Prog.Alone.bind (ih ((List.mem_cons.mp hmem).resolve_left hfirst) h₁)
        fun _ w₂ hemitted => hemitted

/-- The recipient a roster makes of an agent. -/
def recipientOf (a : Agent) : Recipient where
  id := a.id
  name := a.name
  providerName := a.providerName
  ackSeq := a.deliveryAckSeq

/-- A roster query finds every agent in its scope. -/
lemma recipientOf_mem_roster {s : Store} {providerName : Option String}
    {ids : Option (List AgentId)} (ha : a ∈ s.agents) (hlocated : a.locationType = "via_node")
    (hnode : a.locationNodeId = some nodeId) (hprovider : ∀ p, providerName = some p →
      a.providerName = p) (hids : ∀ xs, ids = some xs → a.id ∈ xs) :
    recipientOf a ∈ s.roster nodeId providerName ids := by
  refine (List.mem_insertionSort _).mpr (List.mem_map.mpr ⟨a, Table.mem_select.mpr ⟨ha, ?_⟩, rfl⟩)
  simp only [hlocated, hnode, beq_self_eq_true, Bool.true_and, Bool.and_eq_true]
  constructor
  · cases providerName with
    | none => rfl
    | some p => exact beq_iff_eq.mpr (hprovider p rfl)
  · cases ids with
    | none => rfl
    | some xs => exact List.contains_iff_mem.mpr (hids xs rfl)

/-- The chunked roster query finds every agent in its scope that one of the chunks names. -/
lemma rosterInChunks_drains (providerName : Option String) (chunks : List (List AgentId))
    (hlocated : a.locationType = "via_node") (hnode : a.locationNodeId = some nodeId)
    (hprovider : ∀ p, providerName = some p → a.providerName = p) {w : World lang Store}
    (h : Pending r a w) :
    Drains r i (fun recipients w' => Pending r a w' ∧
        (a.id ∈ chunks.flatten → recipientOf a ∈ recipients))
      (rosterInChunks nodeId providerName chunks) w := by
  induction chunks generalizing w with
  | nil => exact ⟨h, fun hmem => absurd hmem List.not_mem_nil⟩
  | cons chunk rest ih =>
    refine Prog.Alone.ask_bind fun a₁ _ (rows : List Recipient) hrows => ?_
    refine Prog.Alone.bind (ih (h.after (i := i) (q := .roster nodeId providerName (some chunk))
      (.inl rfl) a₁)) fun more w' ⟨h', hmore⟩ => ⟨h', ?_⟩
    intro hmem
    rw [List.flatten_cons] at hmem
    rcases List.mem_append.mp hmem with hmem | hmem
    · refine List.mem_append_left _ ?_
      obtain rfl : rows = w.store.roster nodeId providerName (some chunk) := hrows
      refine recipientOf_mem_roster h.2 hlocated hnode hprovider fun xs hxs => ?_
      rw [← Option.some.inj hxs]
      exact hmem
    · exact List.mem_append_right _ (hmore hmem)

/-- A replay left alone emits every eligible row. -/
lemma replayPendingToNode_drains {s : Store} {scope : NodeDeliveryReplayScope}
    (hr : Eligible s nodeId scope r a) {w : World lang Store} (hw : w.store = s) :
    Drains r i (fun _ w' => Emitted r i w') (replayPendingToNode nodeId scope) w := by
  have hpending : Pending r a w := by
    rw [Pending, hw]
    exact ⟨⟨r, hr.stored, rfl, hr.active, rfl⟩, hr.agent⟩
  have haddressed : Addressed nodeId (recipientOf a) r a :=
    ⟨hr.agentId, hr.located, hr.node, hr.unacked, rfl, rfl, rfl⟩
  unfold replayPendingToNode
  split
  · next hnone =>
    refine Prog.Alone.ask_bind fun a₁ _ (recipients : List Recipient) hrecipients => ?_
    refine drainRoster_drains recipients ?_ haddressed
      (hpending.after (i := i) (q := .roster nodeId scope.providerName none) (.inl rfl) a₁)
    obtain rfl : recipients = w.store.roster nodeId scope.providerName none := hrecipients
    refine recipientOf_mem_roster hpending.2 hr.located hr.node hr.provider fun xs hxs => ?_
    simp at hxs
  · next hempty =>
    obtain ⟨ids, hids, hnil⟩ := Option.map_eq_some_iff.mp hempty
    have hmem := List.mem_eraseDups.mpr (hr.wanted ids hids)
    rw [hnil] at hmem
    exact absurd hmem List.not_mem_nil
  · next wantedIds _ hwanted =>
    obtain ⟨ids, hids, rfl⟩ := Option.map_eq_some_iff.mp hwanted
    refine Prog.Alone.bind (rosterInChunks_drains scope.providerName _ hr.located hr.node
      hr.provider hpending) fun recipients w₁ ⟨h₁, hmem⟩ => ?_
    refine drainRoster_drains _ ((List.mem_insertionSort _).mpr (hmem ?_)) haddressed h₁
    rw [flatten_slices (by decide) le_rfl]
    exact (List.mem_insertionSort _).mpr (List.mem_eraseDups.mpr (hr.wanted ids hids))

end Roster

/-! ## Every run -/

/-- Ordered frames emit a row at most once. -/
lemma length_filter_emits_le_one {es : List (Event lang Store)} (h : OrderedReplay es) (r : Row) :
    (es.filter (emits r)).length ≤ 1 := by
  have hframe : ∀ e, emits r e = true → ∃ nodeId providerName frame,
      e.stmt = Stmt.sendToProvider nodeId providerName frame ∧ frame.agentId = r.agentId ∧
        frame.seq = r.seq := by
    intro e he
    unfold emits at he
    split at he
    · next nodeId providerName frame hstmt =>
      simp only [Bool.and_eq_true, beq_iff_eq] at he
      exact ⟨nodeId, providerName, frame, hstmt, he.1.1, he.1.2⟩
    · simp at he
  induction es with
  | nil => simp
  | cons e es ih =>
    have hrest : OrderedReplay es := fun e' past hsuffix =>
      h e' past (hsuffix.trans (List.suffix_cons e es))
    by_cases he : emits r e = true
    · obtain ⟨nodeId, providerName, frame, hstmt, hagent, hseq⟩ := hframe e he
      have hempty : es.filter (emits r) = [] := by
        refine List.filter_eq_nil_iff.mpr fun e' he' hemits => ?_
        obtain ⟨nodeId', providerName', frame', hstmt', hagent', hseq'⟩ := hframe e' hemits
        have hlt := (h e es (List.suffix_refl _) nodeId providerName frame hstmt).increasing e' he'
          nodeId' providerName' frame' hstmt' (hagent'.trans hagent.symm)
        omega
      rw [List.filter_cons_of_pos he, hempty, List.length_singleton]
    · rw [List.filter_cons_of_neg he]
      exact ih hrest

/-- The configuration in which a replay has just been called on the store `s`. -/
def replayCalled (s : Store) (nodeId : NodeId) (scope : NodeDeliveryReplayScope) :
    Config lang Store Call.Result :=
  ⟨⟨s, []⟩, [⟨.replayPendingToNode nodeId scope, some (replayPendingToNode nodeId scope)⟩]⟩

/-- **Ordered replay.**  However a replay is interleaved with message writes, acks, expiries,
handoffs and readiness changes, the frames it emits for an agent have strictly increasing sequences
up to the mark read at the start, each rechecked last thing before it is sent, and none follows a
failed send or a lost readiness.  A replay that runs alone, with every send accepted, returns and
emits every eligible row exactly once. -/
theorem orderedReplay :
    (∀ g : Config lang Store Call.Result, openService.Reachable withoutRetention g →
      ∀ i, OrderedReplay (g.world.eventsOf i)) ∧
    (∀ s nodeId scope r a, Eligible s nodeId scope r a → ∀ g n,
      Relation.ReflTransGen (openService.SoloStep (accepting r) 0) (replayCalled s nodeId scope) g →
        g.threads[0]? = some ⟨.replayPendingToNode nodeId scope, some (.done n)⟩ →
          ((g.world.eventsOf 0).filter (emits r)).length = 1) ∧
    ∀ s nodeId scope (r : Row) now, r.unexpired (toSeconds now) = true → ∃ g n,
      Relation.ReflTransGen (openService.SoloStep (accepting r) 0) (replayCalled s nodeId scope) g ∧
        g.threads[0]? = some ⟨.replayPendingToNode nodeId scope, some (.done n)⟩ := by
  refine ⟨fun g h i => orderedReplay_of_reachable h i, fun s nodeId scope r a hr g n hrun hn => ?_,
    fun s nodeId scope r now hnow => ?_⟩
  · have hstart : openService.Reachable withoutRetention (replayCalled s nodeId scope) :=
      ⟨s, trivial, .single (.start ⟨s, []⟩ [] (Call.replayPendingToNode nodeId scope) trivial)⟩
    have hreach := System.reachable_of_solo (fun _ _ => trivial) hstart hrun
    have hle := length_filter_emits_le_one (orderedReplay_of_reachable hreach 0) r
    have halone : Drains r 0 (fun (_ : ℕ) w' => Emitted r 0 w') (replayPendingToNode nodeId scope)
        ⟨s, []⟩ := replayPendingToNode_drains hr rfl
    obtain ⟨e, he, hemits⟩ := System.alone_sound (S := openService)
      (c := Call.replayPendingToNode nodeId scope) halone rfl hrun hn
    have hpos := List.length_pos_of_mem (List.mem_filter.mpr ⟨he, hemits⟩)
    omega
  · have hok : ∀ q : Stmt, ∃ b, accepting r q b :=
      fun q => ⟨steady now true q, by cases q <;> trivial⟩
    exact openService.exists_solo_run hok (c := Call.replayPendingToNode nodeId scope)
      (replayPendingToNode nodeId scope) ⟨s, []⟩ _ rfl

/-- A mailbox with one queued message: the replay emits it, and only once. -/
theorem orderedReplay_oneMessage :
    let s := (run (.writeMessage (some ⟨"1", "dmch", "sender", none⟩) (directWrite "1" 100 none)) ()
      (oneAgent 0)).2
    ∃ r ∈ s.deliveries, ∃ g : Config lang Store Call.Result,
      ((g.world.eventsOf 0).filter (emits r)).length = 1 ∧ OrderedReplay (g.world.eventsOf 0) := by
  intro s
  obtain ⟨r, hr, hactive, hexpires, hagent, hseq⟩ : ∃ r ∈ s.deliveries.rows,
      r.status.isActive = true ∧ r.unexpired (toSeconds 1000000) = true ∧ r.agentId = "agt" ∧
        0 < r.seq := by decide +kernel
  obtain ⟨a, ha, hid, hlocated, hnode, hack⟩ : ∃ a ∈ s.agents.rows, a.id = "agt" ∧
      a.locationType = "via_node" ∧ a.locationNodeId = some "node" ∧ a.deliveryAckSeq = 0 := by
    decide +kernel
  have heligible : Eligible s "node" ⟨none, none⟩ r a :=
    ⟨hr, hactive, ha, hagent.trans hid.symm, hlocated, hnode, by simp, by simp, hack ▸ hseq⟩
  obtain ⟨g, n, hrun, hn⟩ := orderedReplay.2.2 s "node" ⟨none, none⟩ r 1000000 hexpires
  have hstart : openService.Reachable withoutRetention (replayCalled s "node" ⟨none, none⟩) :=
    ⟨s, trivial, .single (.start ⟨s, []⟩ [] (Call.replayPendingToNode "node" ⟨none, none⟩) trivial)⟩
  exact ⟨r, hr, g, orderedReplay.2.1 s "node" ⟨none, none⟩ r a heligible g n hrun hn,
    orderedReplay.1 g (System.reachable_of_solo (fun _ _ => trivial) hstart hrun) 0⟩

end Delivery
