import Relaycast.Webhook.Outbox

/-!
# What a statement does to a row

For each statement, what it can do to the row of one delivery (`delivery_step`) and to the row of
one event (`event_step`).  Everything that is proved about a row in all runs comes from these.
-/

namespace Webhook

open Relational Interleaving

/-! ## Rows by their identifier -/

section Rows

variable {Row : Type}

/-- The row that is looked up is still there, or it is gone. -/
def Kept (before after : Option Row) : Prop := after = before ∨ after = none

lemma Kept.trans {r₁ r₂ r₃ : Option Row} (h : Kept r₁ r₂) (h' : Kept r₂ r₃) : Kept r₁ r₃ := by
  rcases h' with h' | h'
  · rcases h with h | h
    · exact .inl (h'.trans h)
    · exact .inr (h'.trans h)
  · exact .inr h'

variable [Keyed Row] {q : Row → Bool}

/-- A deletion keeps the row that is looked up, or removes it. -/
lemma kept_deleteWhere {T : Table Row} {p : Row → Bool}
    (hq : ∀ r ∈ T, ∀ s ∈ T, q r = true → q s = true → r = s) :
    Kept (T.rows.find? q) ((T.deleteWhere p).rows.find? q) := by
  cases hfound : (T.deleteWhere p).rows.find? q with
  | none => exact .inr rfl
  | some s =>
    have hs : s ∈ T := (Table.mem_deleteWhere.mp (List.mem_of_find?_eq_some hfound)).1
    have hqs : q s = true := List.find?_some hfound
    cases hfind : T.rows.find? q with
    | none => exact absurd hqs (List.find?_eq_none.mp hfind s hs)
    | some r =>
      have hr : r ∈ T := List.mem_of_find?_eq_some hfind
      rw [hq r hr s hs (List.find?_some hfind) hqs]
      exact .inl rfl

/-- An inserted row is looked up where there was none. -/
lemma find?_insert {T : Table Row} {r : Row} (h : T.conflicts r = false) :
    (T.insert r h).rows.find? q = (T.rows.find? q).or (if q r then some r else none) := by
  show (T.rows ++ [r]).find? q = _
  rw [List.find?_append]
  cases hq : q r <;> simp [hq]

/-- Of rows inserted one after the other, one that was there is still looked up, and any other that
is looked up is one of them. -/
lemma find?_insertAll {T : Table Row} {rows : List Row} :
    (rows.foldl Table.insertOrIgnore T).rows.find? q = T.rows.find? q ∨
      T.rows.find? q = none ∧
        ∃ r ∈ rows, (rows.foldl Table.insertOrIgnore T).rows.find? q = some r := by
  induction rows generalizing T with
  | nil => exact .inl rfl
  | cons r rows ih =>
    have hone : (T.insertOrIgnore r).rows.find? q = T.rows.find? q ∨
        T.rows.find? q = none ∧ (T.insertOrIgnore r).rows.find? q = some r := by
      unfold Table.insertOrIgnore
      split_ifs with h
      · rw [find?_insert h]
        cases hfind : T.rows.find? q with
        | some s => exact .inl rfl
        | none =>
          cases hq : q r with
          | true => exact .inr ⟨rfl, rfl⟩
          | false => exact .inl rfl
      · exact .inl rfl
    rcases ih (T := T.insertOrIgnore r) with hsame | ⟨hnone, s, hs, hfound⟩
    · rcases hone with hone | ⟨hnone, hfound⟩
      · exact .inl (hsame.trans hone)
      · exact .inr ⟨hnone, r, List.mem_cons_self, hsame.trans hfound⟩
    · rcases hone with hone | ⟨-, hfound'⟩
      · exact .inr ⟨hone.symm.trans hnone, s, List.mem_cons_of_mem _ hs, hfound⟩
      · rw [hnone] at hfound'
        cases hfound'

end Rows

namespace Store

variable {s : Store} {id : String}

lemma delivery_id {r : WebhookDelivery} (h : s.delivery? id = some r) : r.id = id := by
  unfold delivery? at h
  simpa using List.find?_some h

lemma event_id {e : PendingEvent} (h : s.event? id = some e) : e.id = id := by
  unfold event? at h
  simpa using List.find?_some h

/-- The one row of an identifier. -/
lemma delivery_of_mem {r : WebhookDelivery} (hr : r ∈ s.deliveries) :
    s.delivery? r.id = some r := by
  cases hfind : s.delivery? r.id with
  | none => exact absurd (beq_self_eq_true r.id) (List.find?_eq_none.mp hfind r hr)
  | some r' =>
    have hr' : r' ∈ s.deliveries := List.mem_of_find?_eq_some hfind
    rw [Table.eq_of_clash hr' hr]
    have hid : r'.id = r.id := delivery_id hfind
    simp [clash, key, hid]

lemma event_of_mem {e : PendingEvent} (he : e ∈ s.events) : s.event? e.id = some e := by
  cases hfind : s.event? e.id with
  | none => exact absurd (beq_self_eq_true e.id) (List.find?_eq_none.mp hfind e he)
  | some e' =>
    have he' : e' ∈ s.events := List.mem_of_find?_eq_some hfind
    rw [Table.eq_of_clash he' he]
    have hid : e'.id = e.id := event_id hfind
    simp [clash, key, hid]

lemma delivery_updateDeliveries {p : WebhookDelivery → Bool} {f : WebhookDelivery → WebhookDelivery}
    {hf : ∀ r, key (f r) = key r} :
    (s.updateDeliveries p f hf).delivery? id =
      (s.delivery? id).map fun r => if p r then f r else r := by
  refine Table.find?_update hf fun r => ?_
  have hid : (f r).id = r.id := (Prod.mk.inj (hf r)).1
  rw [hid]

lemma event_updateEvents {p : PendingEvent → Bool} {f : PendingEvent → PendingEvent}
    {hf : ∀ e, key (f e) = key e} :
    (s.updateEvents p f hf).event? id = (s.event? id).map fun e => if p e then f e else e := by
  refine Table.find?_update hf fun e => ?_
  have hid : (f e).id = e.id := hf e
  rw [hid]

lemma delivery_updateEvents {p : PendingEvent → Bool} {f : PendingEvent → PendingEvent}
    {hf : ∀ e, key (f e) = key e} : (s.updateEvents p f hf).delivery? id = s.delivery? id := rfl

/-- Two rows of one identifier are the same. -/
lemma eq_of_delivery_id (T : Table WebhookDelivery) (id : String) :
    ∀ r ∈ T, ∀ r' ∈ T, (r.id == id) = true → (r'.id == id) = true → r = r' := by
  intro r hr r' hr' h h'
  refine Table.eq_of_clash hr hr' ?_
  rw [beq_iff_eq] at h h'
  simp [clash, key, h, h']

lemma eq_of_event_id (T : Table PendingEvent) (id : String) :
    ∀ e ∈ T, ∀ e' ∈ T, (e.id == id) = true → (e'.id == id) = true → e = e' := by
  intro e he e' he' h h'
  refine Table.eq_of_clash he he' ?_
  rw [beq_iff_eq] at h h'
  simp [clash, key, h, h']

end Store

/-! ## Deliveries -/

/-- What a statement can do to the row of a delivery. -/
inductive DeliveryStep : Stmt → Option WebhookDelivery → Option WebhookDelivery → Prop
  | same (q : Stmt) (r : Option WebhookDelivery) : DeliveryStep q r r
  | claim {r : WebhookDelivery} {now : Millis} (h : r.claimable now = true) :
    DeliveryStep (.claimDelivery r.id now) (some r) (some (r.claim now))
  | settle {r c : WebhookDelivery} {w : Settlement} (h : r.ownedBy c = true) :
    DeliveryStep (.settle c w) (some r) (some (w.apply r))
  | deadLetter {r : WebhookDelivery} {eventId : String} {now : Millis}
    (h : r.expired eventId now = true) :
    DeliveryStep (.deadLetterExpired eventId now) (some r)
      (some (r.complete .deadLetter (some "attempts exhausted after delivery lease expired") now))
  | fail {r : WebhookDelivery} {now : Millis} (h : r.due now = true) :
    DeliveryStep (.failUnavailable r.id now) (some r)
      (some (r.complete .failed (some "subscription inactive or no longer matches this event") now))
  | replay {r : WebhookDelivery} {eventId : String} {now : Millis} (h : r.isTerminal = true) :
    DeliveryStep (.replay eventId r.id now) (some r) (some (r.replay now))
  | insert {v : NewDelivery} {values : List NewDelivery} {unixepoch : Seconds} (h : v ∈ values) :
    DeliveryStep (.insertDeliveries values) none (some (v.row unixepoch))
  | remove (q : Stmt) (r : WebhookDelivery) : DeliveryStep q (some r) none

/-- An update does what it does to the rows its condition hits. -/
lemma DeliveryStep.of_update {q : Stmt} {s : Store} {id : String} {p : WebhookDelivery → Bool}
    {f : WebhookDelivery → WebhookDelivery} {hf : ∀ r, key (f r) = key r}
    (h : ∀ r, r.id = id → p r = true → DeliveryStep q (some r) (some (f r))) :
    DeliveryStep q (s.delivery? id) ((s.updateDeliveries p f hf).delivery? id) := by
  rw [Store.delivery_updateDeliveries]
  cases hfind : s.delivery? id with
  | none => exact .same q none
  | some r =>
    rw [Option.map_some]
    by_cases hp : p r = true
    · rw [if_pos hp]
      exact h r (Store.delivery_id hfind) hp
    · rw [if_neg hp]
      exact .same q _

lemma DeliveryStep.of_kept {q : Stmt} {r r' : Option WebhookDelivery} (h : Kept r r') :
    DeliveryStep q r r' := by
  rcases h with rfl | rfl
  · exact .same q r'
  · cases r with
    | none => exact .same q none
    | some r => exact .remove q r

/-- **What a statement does to the row of a delivery.** -/
theorem delivery_step (q : Stmt) (a : q.Answer) (s : Store) (id : String) :
    DeliveryStep q (s.delivery? id) ((run q a s).2.delivery? id) := by
  cases q with
  | insertSubscription row =>
    simp only [run]
    split_ifs <;> exact .same _ _
  | insertEvent eventId workspaceId eventType payload =>
    simp only [run]
    split_ifs <;> exact .same _ _
  | deleteSubscription | deleteSettled =>
    exact .of_kept (kept_deleteWhere (Store.eq_of_delivery_id _ id))
  | insertDeliveries values =>
    simp only [run]
    split_ifs
    · rcases @find?_insertAll _ _ (fun r => r.id == id) s.deliveries
        (values.map fun v => v.row a) with hsame | ⟨hnone, r, hr, hfound⟩
      · show DeliveryStep _ _ (List.find? _ _)
        rw [hsame]
        exact .same _ _
      · obtain ⟨v, hv, rfl⟩ := List.mem_map.mp hr
        have hnone' : s.delivery? id = none := hnone
        show DeliveryStep _ _ (List.find? _ _)
        rw [hnone', hfound]
        exact .insert hv
    · exact .same _ _
  | deadLetterExpired eventId now => exact .of_update fun r _ hp => .deadLetter hp
  | failUnavailable deliveryId now =>
    refine .of_update fun r _ hp => ?_
    rw [Bool.and_eq_true, beq_iff_eq] at hp
    rw [← hp.1]
    exact .fail hp.2
  | claimDelivery deliveryId now =>
    refine .of_update fun r _ hp => ?_
    rw [Bool.and_eq_true, beq_iff_eq] at hp
    rw [← hp.1]
    exact .claim hp.2
  | settle claimed settlement => exact .of_update fun r _ hp => .settle hp
  | replay eventId deliveryId now =>
    simp only [run]
    rw [← Store.delivery_updateEvents (s := s)]
    refine .of_update fun r _ hp => ?_
    rw [Bool.and_eq_true, beq_iff_eq] at hp
    rw [← hp.1]
    exact .replay hp.2
  | newDate | selectSubscriptions | failExhausted | claimDue | completeEvent | failEvent
  | rescheduleEvent | selectCreatedAt | selectInitialized | setInitialized | selectDeliveries
  | fetch | selectForReplay | selectStatus => exact .same _ _

/-- A deletion outside the outbox keeps the row of a delivery or removes it. -/
lemma delivery_drift (d : Deletion) (s : Store) (id : String) :
    Kept (s.delivery? id) ((d.apply s).delivery? id) :=
  ((kept_deleteWhere (Store.eq_of_delivery_id _ id)).trans
    (kept_deleteWhere (Store.eq_of_delivery_id _ id))).trans
      (kept_deleteWhere (Store.eq_of_delivery_id _ id))

/-! ## Events -/

/-- What a statement can do to the row of an event. -/
inductive EventStep : Stmt → Option PendingEvent → Option PendingEvent → Prop
  | same (q : Stmt) (e : Option PendingEvent) : EventStep q e e
  | insert (id : String) (workspaceId : WorkspaceId) (eventType : String) (payload : Payload)
    (unixepoch : Seconds) :
    EventStep (.insertEvent id workspaceId eventType payload) none
      (some (newEvent id workspaceId eventType payload unixepoch))
  | claim {e : PendingEvent} {now leaseMs : Millis} {limit : ℕ} (h : e.claimable now = true) :
    EventStep (.claimDue now limit leaseMs) (some e) (some (e.claim now leaseMs))
  | settle {q : Stmt} {e : PendingEvent} {status : EventStatus} {error : Option String}
    {now : Millis} (h : e.status = .pending) :
    EventStep q (some e) (some (e.settle status error now))
  | reschedule {e : PendingEvent} {error : String} {processAfter : Millis}
    (h : e.status = .pending) :
    EventStep (.rescheduleEvent e.id error processAfter) (some e)
      (some { e with processAfter := toSeconds processAfter, lastError := some error })
  | mark {e : PendingEvent} :
    EventStep (.setInitialized e.id) (some e) (some { e with webhookInitialized := true })
  | replay {e : PendingEvent} {deliveryId : String} {now : Millis} :
    EventStep (.replay e.id deliveryId now) (some e) (some (e.replay now))
  | remove (q : Stmt) (e : PendingEvent) : EventStep q (some e) none

lemma EventStep.of_update {q : Stmt} {s : Store} {id : String} {p : PendingEvent → Bool}
    {f : PendingEvent → PendingEvent} {hf : ∀ e, key (f e) = key e}
    (h : ∀ e, s.event? id = some e → p e = true → EventStep q (some e) (some (f e))) :
    EventStep q (s.event? id) ((s.updateEvents p f hf).event? id) := by
  rw [Store.event_updateEvents]
  cases hfind : s.event? id with
  | none => exact .same q none
  | some e =>
    rw [Option.map_some]
    by_cases hp : p e = true
    · rw [if_pos hp]
      exact h e hfind hp
    · rw [if_neg hp]
      exact .same q _

lemma EventStep.of_kept {q : Stmt} {e e' : Option PendingEvent} (h : Kept e e') :
    EventStep q e e' := by
  rcases h with rfl | rfl
  · exact .same q e'
  · cases e with
    | none => exact .same q none
    | some e => exact .remove q e

/-- Whoever is among the first that are due is due. -/
lemma Store.claimable_of_due {s : Store} {e : PendingEvent} {now : Millis} {limit : ℕ}
    (he : s.event? e.id = some e) (h : (s.dueEvents now limit).contains e.id = true) :
    e.claimable now = true := by
  rw [List.contains_iff_mem, dueEvents] at h
  obtain ⟨e', he', hid⟩ := List.mem_map.mp h
  have hsorted := List.mem_of_mem_take he'
  rw [List.mem_insertionSort] at hsorted
  obtain ⟨hmem, hdue⟩ := Table.mem_select.mp hsorted
  have hrow := event_of_mem hmem
  rw [hid, he] at hrow
  obtain rfl := Option.some.inj hrow
  exact hdue

/-- **What a statement does to the row of an event.** -/
theorem event_step (q : Stmt) (a : q.Answer) (s : Store) (id : String) :
    EventStep q (s.event? id) ((run q a s).2.event? id) := by
  cases q with
  | insertSubscription row =>
    simp only [run]
    split_ifs <;> exact .same _ _
  | insertEvent eventId workspaceId eventType payload =>
    simp only [run]
    split_ifs with h
    · show EventStep _ _ (List.find? _ _)
      rw [find?_insert h]
      show EventStep _ (s.event? id) ((s.event? id).or _)
      cases s.event? id with
      | some e => exact .same _ _
      | none =>
        rw [Option.none_or]
        split_ifs
        · exact .insert ..
        · exact .same _ _
    · exact .same _ _
  | deleteSubscription => exact .same _ _
  | deleteSettled => exact .of_kept (kept_deleteWhere (Store.eq_of_event_id _ id))
  | insertDeliveries values =>
    simp only [run]
    split_ifs <;> exact .same _ _
  | failExhausted now error =>
    refine .of_update fun e _ hp => .settle ?_
    simp only [PendingEvent.exhausted, Bool.and_eq_true, beq_iff_eq] at hp
    exact hp.1.1
  | claimDue now limit leaseMs =>
    refine .of_update fun e he hp => .claim (Store.claimable_of_due ?_ hp)
    rw [Store.event_id he]
    exact he
  | completeEvent | failEvent =>
    refine .of_update fun e _ hp => .settle ?_
    rw [Bool.and_eq_true, beq_iff_eq, beq_iff_eq] at hp
    exact hp.2
  | rescheduleEvent eventId error processAfter =>
    refine .of_update fun e _ hp => ?_
    rw [Bool.and_eq_true, beq_iff_eq, beq_iff_eq] at hp
    rw [← hp.1]
    exact .reschedule hp.2
  | setInitialized eventId =>
    refine .of_update fun e _ hp => ?_
    rw [← beq_iff_eq.mp hp]
    exact .mark
  | replay eventId deliveryId now =>
    show EventStep _ _ ((s.updateEvents _ (fun e => e.replay now) fun _ => rfl).event? id)
    refine .of_update fun e _ hp => ?_
    rw [Bool.and_eq_true, beq_iff_eq] at hp
    rw [← hp.1]
    exact .replay
  | newDate | selectSubscriptions | selectCreatedAt | selectInitialized | deadLetterExpired
  | selectDeliveries | failUnavailable | claimDelivery | settle | fetch | selectForReplay
  | selectStatus => exact .same _ _

/-- A deletion outside the outbox keeps the row of an event or removes it. -/
lemma event_drift (d : Deletion) (s : Store) (id : String) :
    Kept (s.event? id) ((d.apply s).event? id) :=
  kept_deleteWhere (Store.eq_of_event_id _ id)

end Webhook
