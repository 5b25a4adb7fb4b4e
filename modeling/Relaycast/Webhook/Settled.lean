import Relaycast.Webhook.Settlements

/-!
# What is settled stays settled

Every statement that settles a delivery, or an event, asks for a row that is pending.  So a settled
delivery changes only by a replay, and one that has succeeded not even by that
(`settled_until_replayed`); a settled event changes only by a replay of one of its deliveries
(`settledEvents_until_replayed`), and is worked on at most thirty-two times for its insertion and
for each of these replays (`processing_bounded`).
-/

namespace Webhook

open Relational Interleaving

/-! ## What a row is left by -/

/-- Is the row of the delivery inserted? -/
def isInsertion (id : String) (e : Event lang Store) : Bool :=
  match e.stmt with
  | .insertDeliveries _ => (e.before.delivery? id).isNone && (e.after.delivery? id).isSome
  | _ => false

/-- Is the row of the event inserted, or replayed? -/
def isEventReset (id : String) (e : Event lang Store) : Bool :=
  match e.stmt with
  | .insertEvent .. => (e.before.event? id).isNone && (e.after.event? id).isSome
  | .replay eventId deliveryId _ =>
    eventId == id && (e.before.delivery? deliveryId).any WebhookDelivery.isTerminal
  | _ => false

/-- Is the event claimed? -/
def isEventClaim (id : String) (e : Event lang Store) : Bool :=
  match e.stmt, e.reply with
  | .claimDue .., (claimed : List PendingEvent) => claimed.any fun event => event.id == id
  | _, _ => false

section Step

variable {id : String} {w : World lang Store} {i : ℕ} {q : Stmt} {a : q.Answer}

/-- A delivery that is settled, or not there, is left alone, unless it is reset. -/
lemma settled_step (hsettled : ∀ r, w.store.delivery? id = some r → r.status ≠ .pending) :
    Kept (w.store.delivery? id) ((run q a w.store).2.delivery? id) ∨
      isReset id (w.event machine i q a) = true := by
  have hstep := delivery_step q a w.store id
  generalize hbefore : w.store.delivery? id = before at hstep hsettled ⊢
  generalize hafter : (run q a w.store).2.delivery? id = after at hstep ⊢
  cases hstep with
  | same => exact .inl (.inl rfl)
  | remove => exact .inl (.inr rfl)
  | claim h | deadLetter h | fail h | settle h =>
    refine absurd ?_ (hsettled _ rfl)
    simp only [WebhookDelivery.claimable, WebhookDelivery.expired, WebhookDelivery.due,
      WebhookDelivery.ownedBy, Bool.and_eq_true, beq_iff_eq] at h
    tauto
  | @replay r eventId now h =>
    have hid : r.id = id := Store.delivery_id hbefore
    refine .inr ?_
    simp [isReset, hid, hbefore, h]
  | @insert v values unixepoch h =>
    have hrun : ((machine.run (.insertDeliveries values) a w.store).2.delivery? id) =
      some (v.row unixepoch) := hafter
    refine .inr ?_
    simp [isReset, hbefore, hrun]

/-- A delivery that has succeeded, or is not there, is left alone, unless it is inserted. -/
lemma succeeded_step (hsucceeded : ∀ r, w.store.delivery? id = some r → r.status = .succeeded) :
    Kept (w.store.delivery? id) ((run q a w.store).2.delivery? id) ∨
      isInsertion id (w.event machine i q a) = true := by
  refine (settled_step (i := i) fun r hr => ?_).imp_right fun hreset => ?_
  · rw [hsucceeded r hr]
    decide
  · cases q with
    | insertDeliveries values => exact hreset
    | replay eventId deliveryId now =>
      have hboth : (deliveryId == id &&
          (w.store.delivery? id).any WebhookDelivery.isTerminal) = true := hreset
      rw [Bool.and_eq_true] at hboth
      obtain ⟨r, hr, hterminal⟩ := Option.any_eq_true _ _ |>.mp hboth.2
      rw [WebhookDelivery.isTerminal, hsucceeded r hr] at hterminal
      cases hterminal
    | _ => cases hreset

end Step

/-! ## Events -/

/-- What a settled event says of its delivery. -/
def PendingEvent.outcome (e : PendingEvent) : EventStatus × ℕ × Option String × Option Seconds :=
  (e.status, e.attempts, e.lastError, e.completedAt)

/-- The outcome of an event. -/
def Store.outcome? (s : Store) (id : String) :
    Option (EventStatus × ℕ × Option String × Option Seconds) :=
  (s.event? id).map PendingEvent.outcome

/-- The number of times an event can still be claimed. -/
def Store.claimsLeft (s : Store) (id : String) : ℕ :=
  ((s.event? id).map fun e => e.maxAttempts - e.attempts).getD 0

section EventStep

variable {id : String} {w : World lang Store} {i : ℕ} {q : Stmt} {a : q.Answer}

/-- A replay of a delivery resets its event, whether or not that is there. -/
lemma isEventReset_replay {e : PendingEvent} {deliveryId : String} {now : Millis}
    {a : Stmt.Answer (.replay e.id deliveryId now)} (he : w.store.event? id = some e)
    (h : (run (.replay e.id deliveryId now) a w.store).2.event? id ≠ some e) :
    isEventReset id (w.event machine i (.replay e.id deliveryId now) a) = true := by
  have hid : e.id = id := Store.event_id he
  cases hterminal : w.store.deliveries.rows.any fun r => r.id == deliveryId && r.isTerminal with
  | true =>
    obtain ⟨r, hr, hboth⟩ := List.any_eq_true.mp hterminal
    rw [Bool.and_eq_true, beq_iff_eq] at hboth
    have hrow : w.store.delivery? deliveryId = some r := hboth.1 ▸ Store.delivery_of_mem hr
    simp [isEventReset, hid, hrow, hboth.2]
  | false =>
    refine absurd ?_ h
    have hkey : ∀ e : PendingEvent, key (e.replay now) = key e := fun _ => rfl
    show (w.store.updateEvents (fun e' => e'.id == e.id && w.store.deliveries.rows.any fun r =>
      r.id == deliveryId && r.isTerminal) (fun e => e.replay now) hkey).event? id = _
    rw [Store.event_updateEvents, he, hterminal]
    simp

/-- The outcome of an event that is settled, or not there, is left alone, unless it is reset. -/
lemma settledEvent_step (hsettled : ∀ o, w.store.outcome? id = some o → o.1 ≠ .pending) :
    Kept (w.store.outcome? id) ((run q a w.store).2.outcome? id) ∨
      isEventReset id (w.event machine i q a) = true := by
  have hstep := event_step q a w.store id
  rw [Store.outcome?, Store.outcome?]
  rw [Store.outcome?] at hsettled
  generalize hbefore : w.store.event? id = before at hstep hsettled ⊢
  generalize hafter : (run q a w.store).2.event? id = after at hstep ⊢
  cases hstep with
  | same | mark => exact .inl (.inl rfl)
  | remove => exact .inl (.inr rfl)
  | settle h | reschedule h => exact absurd h (hsettled _ rfl)
  | @claim e now leaseMs limit h =>
    refine absurd ?_ (hsettled _ rfl)
    simp only [PendingEvent.claimable, Bool.and_eq_true, beq_iff_eq] at h
    exact h.1.1
  | insert eventId workspaceId eventType payload unixepoch =>
    refine .inr ?_
    have hrun : ((machine.run (.insertEvent eventId workspaceId eventType payload) a
      w.store).2.event? id) = some _ := hafter
    simp [isEventReset, hbefore, hrun]
  | @replay e deliveryId now =>
    by_cases hsame : (run (.replay e.id deliveryId now) a w.store).2.event? id = some e
    · rw [hafter] at hsame
      obtain hsame := Option.some.inj hsame
      rw [hsame]
      exact .inl (.inl rfl)
    · exact .inr (isEventReset_replay hbefore hsame)

/-- A claimed event had a claim left, and has one less. -/
lemma claimed_event (h : isEventClaim id (w.event machine i q a) = true) :
    ∃ e, w.store.event? id = some e ∧ e.attempts < e.maxAttempts ∧
      ∃ now leaseMs, (run q a w.store).2.event? id = some (e.claim now leaseMs) := by
  cases q with
  | claimDue now limit leaseMs =>
    have hany : ((run (.claimDue now limit leaseMs) a w.store).1.any fun e => e.id == id) = true :=
      h
    obtain ⟨c, hc, hid⟩ := List.any_eq_true.mp hany
    obtain ⟨e, he, hdue, rfl⟩ := Table.mem_returning.mp hc
    have hid' : e.id = id := beq_iff_eq.mp hid
    have hrow : w.store.event? id = some e := hid' ▸ Store.event_of_mem he
    have hclaimable := Store.claimable_of_due (hid' ▸ hrow) hdue
    simp only [PendingEvent.claimable, Bool.and_eq_true, decide_eq_true_eq] at hclaimable
    have hkey : ∀ e : PendingEvent, key (e.claim now leaseMs) = key e := fun _ => rfl
    refine ⟨e, hrow, hclaimable.2, now, leaseMs, ?_⟩
    show (w.store.updateEvents (fun e => (w.store.dueEvents now limit).contains e.id)
      (fun e => e.claim now leaseMs) hkey).event? id = _
    rw [Store.event_updateEvents, hrow, Option.map_some, if_pos hdue]
  | _ => cases h

/-- No statement gives claims back, short of an insertion or a replay. -/
lemma claimsLeft_step : (isEventClaim id (w.event machine i q a)).toNat +
    (run q a w.store).2.claimsLeft id ≤
      w.store.claimsLeft id + 32 * (isEventReset id (w.event machine i q a)).toNat := by
  have hstep := event_step q a w.store id
  rw [Store.claimsLeft, Store.claimsLeft]
  cases hclaim : isEventClaim id (w.event machine i q a) with
  | true =>
    obtain ⟨e, he, hlt, now, leaseMs, hafter⟩ := claimed_event hclaim
    rw [he, hafter]
    simp only [Option.map_some, Option.getD_some, Bool.toNat_true, PendingEvent.claim]
    omega
  | false =>
    rw [Bool.toNat_false, Nat.zero_add]
    generalize hbefore : w.store.event? id = before at hstep ⊢
    generalize hafter : (run q a w.store).2.event? id = after at hstep ⊢
    cases hstep with
    | same | settle | reschedule | mark => exact Nat.le_add_right _ _
    | claim => exact Nat.le_add_right_of_le (Nat.sub_le_sub_left (Nat.le_succ _) _)
    | remove => exact Nat.zero_le _
    | insert eventId workspaceId eventType payload unixepoch =>
      have hrun : ((machine.run (.insertEvent eventId workspaceId eventType payload) a
        w.store).2.event? id) = some _ := hafter
      have hreset : isEventReset id (w.event machine i
          (.insertEvent eventId workspaceId eventType payload) a) = true := by
        simp [isEventReset, hbefore, hrun]
      rw [hreset]
      exact Nat.le_add_left _ _
    | @replay e deliveryId now =>
      by_cases hsame : (run (.replay e.id deliveryId now) a w.store).2.event? id = some e
      · rw [hafter] at hsame
        rw [Option.some.inj hsame]
        exact Nat.le_add_right _ _
      · rw [isEventReset_replay hbefore hsame]
        exact Nat.le_add_left _ _

end EventStep

/-! ## Runs -/

/-- What is looked up and stays where it is, short of certain events, stays where it is in a run
without these events. -/
theorem kept_of_run {Row : Type} (look : Store → Option Row) (stuck : Row → Prop)
    {leaves : Event lang Store → Bool}
    (hstep : ∀ (w : World lang Store) i q (a : q.Answer), (∀ r, look w.store = some r → stuck r) →
      Kept (look w.store) (look (run q a w.store).2) ∨ leaves (w.event machine i q a) = true)
    (hdrift : ∀ (d : Deletion) s, Kept (look s) (look (d.apply s))) {platform : Platform}
    {g g' : Config lang Store Call.Result}
    (h : (service platform).Reachable (Regime.free lang Store Call) g)
    (hrun : Relation.ReflTransGen ((service platform).Step (Regime.free lang Store Call)) g g')
    (hstuck : ∀ r, look g.world.store = some r → stuck r) :
    ∃ newer, g'.world.trace = newer ++ g.world.trace ∧
      (Kept (look g.world.store) (look g'.world.store) ∨ ∃ e ∈ newer, leaves e = true) := by
  have hstable := System.stable_of_statements (P := fun _ => True) (R := fun w w' =>
    ∃ newer, w'.trace = newer ++ w.trace ∧ ((∀ r, look w.store = some r → stuck r) →
      Kept (look w.store) (look w'.store) ∨ ∃ e ∈ newer, leaves e = true))
    (fun w => ⟨[], rfl, fun _ => .inl (.inl rfl)⟩) ?_
    (fun d w => ⟨[], rfl, fun _ => .inl (hdrift d _)⟩)
    (fun c _ => Prog.issues_true _) (fun w i q _ _ a => ⟨[_], rfl, fun hw => ?_⟩) h hrun
  · obtain ⟨newer, htrace, hkept⟩ := hstable
    exact ⟨newer, htrace, hkept hstuck⟩
  · rintro w₁ w₂ w₃ ⟨newer, htrace, hkept⟩ ⟨newer', htrace', hkept'⟩
    refine ⟨newer' ++ newer, by rw [htrace', htrace, List.append_assoc], fun hw => ?_⟩
    rcases hkept hw with hkept | ⟨e, he, hleaves⟩
    · have hw₂ : ∀ r, look w₂.store = some r → stuck r := by
        intro r hr
        rcases hkept with hsame | hgone
        · exact hw r (hsame.symm.trans hr)
        · cases hgone.symm.trans hr
      rcases hkept' hw₂ with hkept' | ⟨e, he, hleaves⟩
      · exact .inl (hkept.trans hkept')
      · exact .inr ⟨e, List.mem_append_left _ he, hleaves⟩
    · exact .inr ⟨e, List.mem_append_right _ he, hleaves⟩
  · rcases hstep w i q a hw with hkept | hleaves
    · exact .inl hkept
    · exact .inr ⟨_, List.mem_singleton_self _, hleaves⟩

/-- **A settled delivery changes only by a replay, or with a new row**, and one that has succeeded
only with a new row. -/
theorem settled_until_replayed (platform : Platform) {g g' : Config lang Store Call.Result}
    (h : (service platform).Reachable (Regime.free lang Store Call) g)
    (hrun : Relation.ReflTransGen ((service platform).Step (Regime.free lang Store Call)) g g')
    {id : String} {r : WebhookDelivery} (hr : g.world.store.delivery? id = some r)
    (hsettled : r.status ≠ .pending) :
    ∃ newer, g'.world.trace = newer ++ g.world.trace ∧
      (Kept (some r) (g'.world.store.delivery? id) ∨ ∃ e ∈ newer,
        if r.status = .succeeded then isInsertion id e = true else isReset id e = true) := by
  have hrow : ∀ r', g.world.store.delivery? id = some r' → r' = r := fun r' hr' =>
    Option.some.inj (hr'.symm.trans hr)
  rw [← hr]
  by_cases hsucceeded : r.status = .succeeded
  · simp only [if_pos hsucceeded]
    exact kept_of_run (fun s => s.delivery? id) (fun r => r.status = .succeeded)
      (fun w i q a hw => succeeded_step hw) (fun d s => delivery_drift d s id) h hrun
      fun r' hr' => hrow r' hr' ▸ hsucceeded
  · simp only [if_neg hsucceeded]
    exact kept_of_run (fun s => s.delivery? id) (fun r => r.status ≠ .pending)
      (fun w i q a hw => settled_step hw) (fun d s => delivery_drift d s id) h hrun
      fun r' hr' => hrow r' hr' ▸ hsettled

/-- **A settled event changes only by a replay of one of its deliveries, or with a new row.** -/
theorem settledEvents_until_replayed (platform : Platform) {g g' : Config lang Store Call.Result}
    (h : (service platform).Reachable (Regime.free lang Store Call) g)
    (hrun : Relation.ReflTransGen ((service platform).Step (Regime.free lang Store Call)) g g')
    {id : String} {e : PendingEvent} (he : g.world.store.event? id = some e)
    (hsettled : e.status ≠ .pending) :
    ∃ newer, g'.world.trace = newer ++ g.world.trace ∧
      (Kept (some e.outcome) (g'.world.store.outcome? id) ∨
        ∃ e ∈ newer, isEventReset id e = true) := by
  have houtcome : g.world.store.outcome? id = some e.outcome := by rw [Store.outcome?, he]; rfl
  rw [← houtcome]
  refine kept_of_run (fun s => s.outcome? id) (fun o => o.1 ≠ .pending)
    (fun w i q a hw => settledEvent_step hw) (fun d s => ?_) h hrun fun o ho => ?_
  · rcases event_drift d s id with hsame | hgone
    · exact .inl (by rw [Store.outcome?, Store.outcome?, hsame])
    · exact .inr (by rw [Store.outcome?, hgone]; rfl)
  · obtain rfl := Option.some.inj (ho.symm.trans houtcome)
    exact hsettled

/-- **An event is worked on at most thirty-two times for its insertion and for each replay of one of
its deliveries**, in every run of any number of workers. -/
theorem processing_bounded (platform : Platform) (id : String)
    {g : Config lang Store Call.Result}
    (h : (service platform).Reachable (Regime.free lang Store Call) g) :
    g.world.trace.countP (isEventClaim id) + g.world.store.claimsLeft id ≤
      32 * g.world.trace.countP (isEventReset id) := by
  refine System.invariant_of_statements (P := fun _ => True) (I := fun w =>
    w.trace.countP (isEventClaim id) + w.store.claimsLeft id ≤
      32 * w.trace.countP (isEventReset id)) (fun s hs => ?_) (fun d w hw => ?_)
    (fun c _ => Prog.issues_true _) (fun w i q _ hw _ a => ?_) h
  · have hnone : s.event? id = none := by
      unfold Store.event?
      rw [hs.1]
      rfl
    simp [Store.claimsLeft, hnone]
  · refine le_trans (Nat.add_le_add_left ?_ _) hw
    show (d.apply w.store).claimsLeft id ≤ w.store.claimsLeft id
    rw [Store.claimsLeft, Store.claimsLeft]
    rcases event_drift d w.store id with hsame | hgone
    · rw [hsame]
    · rw [hgone]
      exact Nat.zero_le _
  · have hstep := @claimsLeft_step id w i q a
    have hrun : ((service platform).run q a w.store).2 = (run q a w.store).2 := rfl
    have hcount : ∀ p : Event lang Store → Bool,
        (w.after (service platform).toMachine i q a).trace.countP p =
          w.trace.countP p + (p (w.event machine i q a)).toNat := by
      intro p
      rw [World.after_trace, List.countP_cons]
      show _ + (if p (w.event machine i q a) = true then 1 else 0) = _
      cases p (w.event machine i q a) <;> rfl
    rw [hcount, hcount, World.after_store, hrun, Nat.mul_add]
    exact le_trans (by omega) (Nat.add_le_add_right hw _)

/-! ## A run -/

/-- A subscriber refuses an event. -/
def refusedRun : Config lang Store Call.Result :=
  (service plainPlatform).runFrom ⟨.empty, .empty, .empty⟩
    (enqueued ++ [.start pollOnce] ++ executes 2 20 1000 400)

/-- The delivery is replayed, and sent once more. -/
def replays : List (service plainPlatform).Move :=
  [.start (.replayWebhookDelivery "ws" "sub" "whd_ev\x00sub")] ++ executes 3 4 100000 200 ++
    [.start pollOnce] ++ executes 4 20 100000 200

/-- A subscriber refuses an event, and accepts it when it is replayed. -/
def replayedRun : Config lang Store Call.Result :=
  replays.foldl (service plainPlatform).play refusedRun

/-- The refused delivery. -/
def refusedDelivery : WebhookDelivery :=
  ⟨"whd_ev\x00sub", "ev", "sub", .failed, 1, 61, some "HTTP 400", some 400, 1, some 1⟩

/-- The event of the refused delivery. -/
def refusedEvent : PendingEvent :=
  ⟨"ev", "ws", "message.created", ⟨"\x7b\x7d", none, none, none⟩, .failed, 1, 32, true,
    some "terminal delivery failure: 1 of 1 subscriber(s)", 0, 61, some 1⟩

lemma refusedRun_reachable :
    (service plainPlatform).Reachable (Regime.free lang Store Call) refusedRun :=
  System.runFrom_reachable _ service_init_empty _

lemma replayedRun_of_refusedRun : Relation.ReflTransGen
    ((service plainPlatform).Step (Regime.free lang Store Call)) refusedRun replayedRun :=
  System.plays_steps _ _ (System.allowsAll_of_starts _ (fun _ _ _ => trivial) trivial
    (fun _ _ => trivial) _)

/-- The refused delivery, which is replayed. -/
theorem settled_until_replayed_refused :
    replayedRun.world.store.delivery? "whd_ev\x00sub" ≠ some refusedDelivery ∧
      ∃ newer, replayedRun.world.trace = newer ++ refusedRun.world.trace ∧
        (Kept (some refusedDelivery) (replayedRun.world.store.delivery? "whd_ev\x00sub") ∨
          ∃ e ∈ newer, if refusedDelivery.status = .succeeded
            then isInsertion "whd_ev\x00sub" e = true else isReset "whd_ev\x00sub" e = true) :=
  ⟨by decide +kernel, settled_until_replayed plainPlatform refusedRun_reachable
    replayedRun_of_refusedRun (by decide +kernel) (by decide)⟩

/-- Its event. -/
theorem settledEvents_until_replayed_refused :
    replayedRun.world.store.outcome? "ev" ≠ some refusedEvent.outcome ∧
      ∃ newer, replayedRun.world.trace = newer ++ refusedRun.world.trace ∧
        (Kept (some refusedEvent.outcome) (replayedRun.world.store.outcome? "ev") ∨
          ∃ e ∈ newer, isEventReset "ev" e = true) :=
  ⟨by decide +kernel, settledEvents_until_replayed plainPlatform refusedRun_reachable
    replayedRun_of_refusedRun (by decide +kernel) (by decide)⟩

/-- An event that is worked on twice. -/
theorem processing_bounded_retried :
    retriedRun.world.trace.countP (isEventClaim "ev") = 2 ∧
      retriedRun.world.trace.countP (isEventClaim "ev") + retriedRun.world.store.claimsLeft "ev" ≤
        32 * retriedRun.world.trace.countP (isEventReset "ev") :=
  ⟨by decide +kernel, processing_bounded plainPlatform _ retriedRun_reachable⟩

end Webhook
