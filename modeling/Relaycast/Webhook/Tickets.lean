import Relaycast.Interleaving.Parallel
import Relaycast.Webhook.Delivering

/-!
# Tickets

Only the branch of a pass that has claimed a delivery sends and settles it, once each and in that
order.  What that gives is said here once, for any accounting: a claim hands out a ticket, a request
turns it into another, a settlement takes that one back, and every other statement leaves the
accounts alone (`Tickets`).  Then every call of the service keeps the accounts (`Tickets.keeps`).
-/

namespace Webhook

open Relational Interleaving

/-- A statement that neither claims, sends nor settles a delivery. -/
def Stmt.Plain : Stmt → Prop
  | .claimDelivery .. | .fetch .. | .settle .. => False
  | _ => True

/-- Is the request what an attempt for the delivery sends? -/
def Prepared (platform : Platform) (deliveryId : String) (request : Request) : Prop :=
  ∃ target eventType body now,
    prepareRequest platform target eventType deliveryId body now = .ok request

/-- An accounting of claims: what a call holds between its claim and its request, and what it holds
between its request and its settlement. -/
structure Tickets {N : Type} [AddCommMonoid N] (platform : Platform)
    (D : Discipline lang Store N) where
  lax : D.Lax
  toSend : ℕ → WebhookDelivery → N
  toSettle : ℕ → WebhookDelivery → N
  plain : ∀ i w n q, q.Plain → D.inv w n → ∀ a, D.inv (w.after machine i q a) n
  claim : ∀ i w n id now (a : Stmt.Answer (.claimDelivery id now)), D.inv w n →
    ∀ c, (run (.claimDelivery id now) a w.store).1 = some c →
      D.inv (w.after machine i (.claimDelivery id now) a) (toSend i c + n)
  idle : ∀ i w n id now (a : Stmt.Answer (.claimDelivery id now)), D.inv w n →
    (run (.claimDelivery id now) a w.store).1 = none →
      D.inv (w.after machine i (.claimDelivery id now) a) n
  skip : ∀ i w n c, D.inv w (toSend i c + n) → D.inv w (toSettle i c + n)
  send : ∀ i w n c request (a : Stmt.Answer (.fetch c.id request)), Prepared platform c.id request →
    D.inv w (toSend i c + n) →
      D.inv (w.after machine i (.fetch c.id request) a) (toSettle i c + n)
  settle : ∀ i w n c s (a : Stmt.Answer (.settle c s)), D.inv w (toSettle i c + n) →
    D.inv (w.after machine i (.settle c s) a) n

namespace Tickets

variable {N : Type} [AddCommMonoid N] {platform : Platform} {D : Discipline lang Store N}
  (T : Tickets platform D) {α β : Type}

/-- A program that gives back whatever it takes. -/
structure Calm (D : Discipline lang Store N) (p : Prog lang α) : Prop where
  safe : ∀ i w, D.Safe machine (fun _ _ _ => True) i (fun _ n _ => n = 0) p 0 w

omit T in
lemma calm_done (a : α) : Calm D (.done a) := ⟨fun _ _ => rfl⟩

omit T in
lemma Calm.bind {p : Prog lang α} {f : α → Prog lang β} (hp : Calm D p) (hf : ∀ a, Calm D (f a)) :
    Calm D (p >>= f) := by
  refine ⟨fun i w => Discipline.Safe.bind (hp.safe i w) fun a n w hn => ?_⟩
  subst hn
  exact (hf a).safe i w

include T in
lemma calm_stmt {q : Stmt} {k : q.Reply → Prog lang α} (hq : q.Plain) (hk : ∀ r, Calm D (k r)) :
    Calm D (.stmt q k) := by
  refine ⟨fun i w w' rest _ hI _ a => ?_⟩
  exact ⟨fun j _ => T.lax j _ _, 0, T.plain i w' _ q hq hI a, (hk _).safe i _⟩

include T in
lemma calm_ask {q : Stmt} {f : q.Reply → Prog lang α} (hq : q.Plain) (hf : ∀ r, Calm D (f r)) :
    Calm D (await q >>= f) := T.calm_stmt hq hf

include T in
lemma calm_await {q : Stmt} (hq : q.Plain) : Calm D (await q) := T.calm_stmt hq fun r => calm_done r

include T in
lemma calm_all (sched : List ℕ) {ps : List (Prog lang Unit)} (h : ∀ p ∈ ps, Calm D p) :
    Calm D (Prog.all sched ps) where
  safe i w := Discipline.Safe.all_zero T.lax sched (fun p hp => (h p hp).safe i) w

/-! ## One delivery -/

include T in
/-- What is done with a claim takes its ticket back. -/
lemma safe_deliverClaimed (pass : Pass) (target : Subscription) (c : WebhookDelivery) (i : ℕ)
    (w : World lang Store) :
    D.Safe machine (fun _ _ _ => True) i (fun _ n _ => n = 0)
      (deliverClaimed platform pass target c) (T.toSend i c) w := by
  have hsettle : ∀ (s : Settlement) (w : World lang Store),
      D.Safe machine (fun _ _ _ => True) i (fun _ n _ => n = 0) (await (.settle c s))
        (T.toSettle i c) w := by
    intro s w w' rest _ hI _ a
    refine ⟨fun j _ => T.lax j _ _, 0, ?_, rfl⟩
    rw [zero_add]
    exact T.settle i w' rest c s a hI
  unfold deliverClaimed attemptDelivery
  split
  · -- The attempt fails before anything is sent.
    intro w' rest _ hI _ a
    refine ⟨fun j _ => T.lax j _ _, 0, ?_, rfl⟩
    rw [zero_add]
    exact T.settle i w' rest c _ a (T.skip i w' rest c hI)
  · next request hrequest =>
    intro w' rest _ hI _ a
    have hprepared : Prepared platform c.id request := ⟨_, _, _, _, hrequest⟩
    exact ⟨fun j _ => T.lax j _ _, T.toSettle i c, T.send i w' rest c request a hprepared hI,
      hsettle _ _⟩

include T in
lemma calm_deliverRow (pass : Pass) (r : WebhookDelivery) :
    Calm D (deliverRow platform pass r) := by
  unfold deliverRow
  split_ifs
  · exact calm_done ()
  split
  · exact calm_done ()
  · next target _ =>
    refine ⟨fun i w w' rest _ hI _ a => ⟨fun j _ => T.lax j _ _, ?_⟩⟩
    rw [zero_add] at hI
    cases hreply : (run (.claimDelivery r.id pass.now) a w'.store).1 with
    | none =>
      refine ⟨0, ?_, ?_⟩
      · rw [zero_add]
        exact T.idle i w' rest _ _ a hI hreply
      · show D.Safe _ _ i _ _ 0 _
        simp only [machine, hreply]
        exact (calm_done ()).safe i _
    | some c =>
      refine ⟨T.toSend i c, T.claim i w' rest _ _ a hI c hreply, ?_⟩
      show D.Safe _ _ i _ _ (T.toSend i c) _
      simp only [machine, hreply]
      exact T.safe_deliverClaimed pass target c i _

/-! ## The functions -/

include T in
lemma calm_clock (now : Option Millis) : Calm D (clock now) := by
  cases now with
  | none => exact T.calm_await trivial
  | some now => exact calm_done now

include T in
lemma calm_insertDeliveries (values : List NewDelivery) : Calm D (insertDeliveries values) := by
  cases values with
  | nil => exact calm_done _
  | cons v values => exact T.calm_await trivial

include T in
lemma calm_timestampSource (options : DeliverEventOptions) :
    Calm D (timestampSource options) := by
  unfold timestampSource
  cases options.eventTimestamp with
  | none => exact T.calm_ask trivial fun _ => calm_done _
  | some timestamp => exact calm_done _

include T in
lemma calm_activeTargets (workspaceId : WorkspaceId) (eventType : String) (payload : Payload) :
    Calm D (activeTargets workspaceId eventType payload) :=
  T.calm_ask trivial fun _ => calm_done _

include T in
lemma calm_initializePersistentDeliveries (eventId : String) (targets : List Subscription)
    (now : Millis) : Calm D (initializePersistentDeliveries platform eventId targets now) := by
  refine T.calm_ask trivial fun parent => ?_
  rcases parent with _ | initialized
  · exact calm_done _
  cases initialized with
  | true => exact calm_done _
  | false =>
    refine (T.calm_insertDeliveries _).bind fun inserted => ?_
    cases inserted with
    | error failure => exact calm_done _
    | ok _ => exact T.calm_ask trivial fun _ => calm_done _

include T in
lemma calm_deliverInitialized (eventId : String) (hasFetch : Bool) (pass : Pass)
    (order : PassOrder) : Calm D (deliverInitialized platform eventId hasFetch pass order) := by
  refine T.calm_ask trivial fun _ => T.calm_ask trivial fun rows => ?_
  split_ifs
  · exact calm_done _
  refine Calm.bind (T.calm_all _ fun p hp => ?_) fun _ => ?_
  · obtain ⟨r, -, rfl⟩ := List.mem_map.mp hp
    exact T.calm_await trivial
  split_ifs
  · exact calm_done _
  refine Calm.bind (T.calm_all _ fun p hp => ?_) fun _ => T.calm_ask trivial fun _ => calm_done _
  obtain ⟨r, -, rfl⟩ := List.mem_map.mp hp
  exact T.calm_deliverRow pass r

include T in
lemma calm_deliverEvent (workspaceId : WorkspaceId) (eventType : String) (payload : Payload)
    (options : DeliverEventOptions) (order : PassOrder) :
    Calm D (deliverEvent platform workspaceId eventType payload options order) := by
  refine (T.calm_clock options.now).bind fun now => (T.calm_timestampSource options).bind
    fun createdAt => (T.calm_activeTargets ..).bind fun targets =>
      (T.calm_initializePersistentDeliveries ..).bind fun initialized => ?_
  rcases initialized with failure | initialized
  · exact calm_done _
  cases initialized with
  | false => exact calm_done _
  | true => exact T.calm_deliverInitialized ..

include T in
lemma calm_failExhaustedDueEvents (now : Option Millis) : Calm D (failExhaustedDueEvents now) :=
  (T.calm_clock now).bind fun _ => T.calm_await trivial

include T in
lemma calm_claimDueEvents (now : Option Millis) (limit : ℕ) (leaseMs : Millis) :
    Calm D (claimDueEvents now limit leaseMs) :=
  (T.calm_clock now).bind fun _ => T.calm_await trivial

include T in
lemma calm_process (options : QueueOptions) (event : PendingEvent) (order : PassOrder) :
    Calm D (process platform options event order) := by
  refine (T.calm_deliverEvent ..).bind fun delivered => ?_
  cases delivered with
  | error failure =>
    show Calm D (processFailure options event failure)
    unfold processFailure
    split_ifs <;> exact T.calm_ask trivial fun _ => T.calm_await trivial
  | ok summary =>
    show Calm D (if _ then _ else _)
    split_ifs <;> exact T.calm_ask trivial fun _ => T.calm_await trivial

include T in
lemma calm_pollRounds (options : QueueOptions) (orders : List RoundOrder) :
    Calm D (pollRounds platform options orders) := by
  induction orders with
  | nil => exact calm_done _
  | cons order orders ih =>
    refine (T.calm_failExhaustedDueEvents none).bind fun _ =>
      (T.calm_claimDueEvents none _ _).bind fun claimed => ?_
    split
    · exact calm_done _
    refine Calm.bind (T.calm_all _ fun p hp => ?_) fun _ => ?_
    · obtain ⟨event, -, rfl⟩ := List.mem_map.mp hp
      exact T.calm_process options event _
    split
    · exact calm_done _
    · exact ih

include T in
lemma calm_cleanupOldEvents (maxAgeMs : Millis) : Calm D (cleanupOldEvents maxAgeMs) :=
  (T.calm_failExhaustedDueEvents none).bind fun _ =>
    T.calm_ask trivial fun _ => T.calm_await trivial

include T in
lemma calm_replayWebhookDelivery (workspaceId : WorkspaceId) (subscriptionId deliveryId : String) :
    Calm D (replayWebhookDelivery workspaceId subscriptionId deliveryId) := by
  refine T.calm_ask trivial fun found => ?_
  rcases found with _ | ⟨row, event⟩
  · exact calm_done _
  show Calm D (if _ then _ else _)
  split_ifs
  · exact calm_done _
  refine T.calm_ask trivial fun now => T.calm_ask trivial fun replayed => ?_
  split_ifs
  · exact calm_done _
  refine T.calm_ask trivial fun current => ?_
  cases current <;> exact calm_done _

include T in
lemma calm_body (c : Call) : Calm D (c.body platform) := by
  cases c with
  | createSubscription | deleteSubscription | enqueueEvent => exact T.calm_await trivial
  | deliverEvent => exact T.calm_deliverEvent ..
  | poll options orders cleanup =>
    refine (T.calm_pollRounds options orders).bind fun _ => ?_
    cases cleanup with
    | false => exact calm_done _
    | true => exact (T.calm_cleanupOldEvents _).bind fun _ => calm_done _
  | sweepPendingEvents now limit leaseMs =>
    exact (T.calm_failExhaustedDueEvents now).bind fun _ => T.calm_claimDueEvents ..
  | completeEvent | failEvent | rescheduleEvent =>
    exact T.calm_ask trivial fun _ => T.calm_await trivial
  | cleanupOldEvents => exact T.calm_cleanupOldEvents _
  | replayWebhookDelivery => exact T.calm_replayWebhookDelivery ..

include T in
/-- **Every call keeps the accounts.** -/
theorem keeps
    (hinit : ∀ s, (service platform).init s → D.inv ⟨s, []⟩ 0)
    (hdrift : ∀ d w n, D.inv w n → D.inv (w.drift machine d) n) :
    D.Keeps (service platform) (Regime.free lang Store Call) fun _ _ _ n _ => n = 0 where
  init := hinit
  drift_inv := hdrift
  drift_rely _ _ i := T.lax i _ _
  call c _ i w _ _ _ := (T.calm_body c).safe i w

end Tickets

end Webhook
