import Relaycast.Webhook.Effects
import Relaycast.Webhook.Tickets

/-!
# How often a subscriber is called

A row of `webhook_deliveries` starts with no attempts, and so does a replayed one; a claim takes one
of the seven, and nothing else touches the number.  A request is made by whoever has claimed, once
for each claim.  So however many workers race for an event, however often they crash, lose their
lease or come back, a delivery is sent at most seven times for its insertion and seven times for
each replay (`requests_bounded`).
-/

namespace Webhook

open Relational Interleaving

/-! ## Claims -/

/-- **A claim** finds nothing to claim, or takes the row of its delivery. -/
lemma claimDelivery_cases (id : String) (now : Millis) (a : Stmt.Answer (.claimDelivery id now))
    (s : Store) :
    (run (.claimDelivery id now) a s).1 = none ∨
      ∃ r, s.delivery? id = some r ∧ r.claimable now = true ∧
        (run (.claimDelivery id now) a s).1 = some (r.claim now) ∧
          (run (.claimDelivery id now) a s).2.delivery? id = some (r.claim now) := by
  cases hreply : (run (.claimDelivery id now) a s).1 with
  | none => exact .inl rfl
  | some c =>
    have hmem : c ∈ s.deliveries.returning (fun r => r.id == id && r.claimable now)
        (fun r => r.claim now) := List.mem_of_head? hreply
    obtain ⟨r, hr, hp, rfl⟩ := Table.mem_returning.mp hmem
    have hclaim := hp
    rw [Bool.and_eq_true, beq_iff_eq] at hp
    have hrow : s.delivery? id = some r := hp.1 ▸ Store.delivery_of_mem hr
    have hkey : ∀ r : WebhookDelivery, key (r.claim now) = key r := fun _ => rfl
    refine .inr ⟨r, hrow, hp.2, rfl, ?_⟩
    show (s.updateDeliveries (fun r => r.id == id && r.claimable now) (fun r => r.claim now)
      hkey).delivery? id = _
    rw [Store.delivery_updateDeliveries, hrow, Option.map_some, if_pos hclaim]

/-- Whoever gets a claim gets the delivery it asked for. -/
lemma claimDelivery_id {id : String} {now : Millis} {a : Stmt.Answer (.claimDelivery id now)}
    {s : Store} {c : WebhookDelivery} (h : (run (.claimDelivery id now) a s).1 = some c) :
    c.id = id := by
  rcases claimDelivery_cases id now a s with hnone | ⟨r, hr, -, hreply, -⟩
  · rw [hnone] at h
    cases h
  · rw [hreply] at h
    obtain rfl := Option.some.inj h
    have hid : r.id = id := Store.delivery_id hr
    exact hid

/-! ## What is counted -/

/-- Is a request made for the delivery? -/
def isRequest (id : String) (e : Event lang Store) : Bool :=
  match e.stmt with
  | .fetch d _ => d == id
  | _ => false

/-- Is the delivery claimed? -/
def isClaim (id : String) (e : Event lang Store) : Bool :=
  match e.stmt, e.reply with
  | .claimDelivery d _, (c : Option WebhookDelivery) => d == id && c.isSome
  | _, _ => false

/-- Is the row of the delivery inserted, or replayed? -/
def isReset (id : String) (e : Event lang Store) : Bool :=
  match e.stmt with
  | .insertDeliveries _ => (e.before.delivery? id).isNone && (e.after.delivery? id).isSome
  | .replay _ d _ => d == id && (e.before.delivery? id).any WebhookDelivery.isTerminal
  | _ => false

/-- The attempts that are left to a delivery. -/
def Store.attemptsLeft (s : Store) (id : String) : ℕ :=
  ((s.delivery? id).map fun r => MAX_DELIVERY_ATTEMPTS - r.attempts).getD 0

section Counts

variable {id : String} {w : World lang Store} {i : ℕ} {q : Stmt} {a : q.Answer}

lemma attemptsLeft_le (s : Store) (id : String) : s.attemptsLeft id ≤ MAX_DELIVERY_ATTEMPTS := by
  unfold Store.attemptsLeft
  cases s.delivery? id with
  | none => exact Nat.zero_le _
  | some r => exact Nat.sub_le _ _

lemma Settlement.attempts_apply (x : Settlement) (r : WebhookDelivery) :
    (x.apply r).attempts = r.attempts := by
  cases x <;> rfl

/-- No statement gives attempts back, short of an insertion or a replay. -/
lemma attemptsLeft_step : (run q a w.store).2.attemptsLeft id ≤
    w.store.attemptsLeft id +
      MAX_DELIVERY_ATTEMPTS * (isReset id (w.event machine i q a)).toNat := by
  have hstep := delivery_step q a w.store id
  have hmax := attemptsLeft_le (run q a w.store).2 id
  rw [Store.attemptsLeft, Store.attemptsLeft]
  rw [Store.attemptsLeft] at hmax
  generalize hbefore : w.store.delivery? id = before at hstep ⊢
  generalize hafter : (run q a w.store).2.delivery? id = after at hstep hmax ⊢
  cases hstep with
  | same | deadLetter | fail => exact Nat.le_add_right _ _
  | claim => exact Nat.le_add_right_of_le (Nat.sub_le_sub_left (Nat.le_succ _) _)
  | @settle r c x h =>
    refine Nat.le_add_right_of_le (Nat.le_of_eq ?_)
    rw [Option.map_some, Option.map_some, Settlement.attempts_apply]
  | remove => exact Nat.zero_le _
  | @replay r eventId now h =>
    have hid : r.id = id := Store.delivery_id hbefore
    have hreset : isReset id (w.event machine i (.replay eventId r.id now) a) = true := by
      simp [isReset, hid, hbefore, h]
    rw [hreset]
    exact Nat.le_add_left_of_le hmax
  | @insert v values unixepoch h =>
    have hreset : isReset id (w.event machine i (.insertDeliveries values) a) = true := by
      have hafter' : ((machine.run (.insertDeliveries values) a w.store).2.delivery? id) =
        some (v.row unixepoch) := hafter
      simp [isReset, hbefore, hafter']
    rw [hreset]
    exact Nat.le_add_left_of_le hmax

/-- A claim takes an attempt. -/
lemma attemptsLeft_claim : (isClaim id (w.event machine i q a)).toNat +
    (run q a w.store).2.attemptsLeft id ≤
      w.store.attemptsLeft id +
      MAX_DELIVERY_ATTEMPTS * (isReset id (w.event machine i q a)).toNat := by
  cases hclaim : isClaim id (w.event machine i q a) with
  | false =>
    rw [Bool.toNat_false, Nat.zero_add]
    exact attemptsLeft_step
  | true =>
    cases q with
    | claimDelivery d now =>
      have hboth : d = id ∧ ((run (.claimDelivery d now) a w.store).1).isSome = true := by
        have h : (d == id && ((run (.claimDelivery d now) a w.store).1).isSome) = true := hclaim
        rwa [Bool.and_eq_true, beq_iff_eq] at h
      obtain ⟨rfl, hsome⟩ := hboth
      rcases claimDelivery_cases d now a w.store with hnone | ⟨r, hr, hclaimable, -, hafter⟩
      · rw [hnone] at hsome
        cases hsome
      · have hlt : r.attempts < MAX_DELIVERY_ATTEMPTS := by
          simp only [WebhookDelivery.claimable, Bool.and_eq_true, decide_eq_true_eq] at hclaimable
          exact hclaimable.2
        rw [Store.attemptsLeft, Store.attemptsLeft, hr, hafter]
        simp only [Option.map_some, Option.getD_some, WebhookDelivery.claim, Bool.toNat_true]
        omega
    | _ => cases hclaim

end Counts

/-! ## Runs -/

/-- The accounts of a delivery: each claim stands for at most one request that is made or still to
be made, and takes one of the attempts that insertions and replays have given. -/
def budget (id : String) : Discipline lang Store ℕ where
  rely _ _ _ := True
  refl _ _ := trivial
  trans _ _ _ _ _ _ := trivial
  inv w n :=
    w.trace.countP (isRequest id) + n ≤ w.trace.countP (isClaim id) ∧
      w.trace.countP (isClaim id) + w.store.attemptsLeft id ≤
        MAX_DELIVERY_ATTEMPTS * w.trace.countP (isReset id)

section Runs

variable {id : String} {w : World lang Store} {n : ℕ}

/-- What a statement does to the accounts. -/
lemma budget_step (h : (budget id).inv w n) (i : ℕ) (q : Stmt) (a : q.Answer) {m : ℕ}
    (hm : m + (isRequest id (w.event machine i q a)).toNat ≤
      n + (isClaim id (w.event machine i q a)).toNat) :
    (budget id).inv (w.after machine i q a) m := by
  obtain ⟨hrequests, hclaims⟩ := h
  have hstep := @attemptsLeft_claim id w i q a
  have hcount : ∀ p : Event lang Store → Bool, (w.after machine i q a).trace.countP p =
      w.trace.countP p + (p (w.event machine i q a)).toNat := by
    intro p
    rw [World.after_trace, List.countP_cons]
    cases p (w.event machine i q a) <;> rfl
  refine ⟨?_, ?_⟩
  · rw [hcount, hcount]
    omega
  · have hrun : (machine.run q a w.store).2 = (run q a w.store).2 := rfl
    rw [hcount, hcount, World.after_store, hrun, Nat.mul_add]
    exact le_trans (by omega) (Nat.add_le_add_right hclaims _)

/-- The accounts as tickets. -/
def budgetTickets (platform : Platform) (id : String) : Tickets platform (budget id) where
  lax _ _ _ := trivial
  toSend _ c := (c.id == id).toNat
  toSettle _ _ := 0
  plain i w n q hq h a := by
    refine budget_step h i q a ?_
    have hrequest : isRequest id (w.event machine i q a) = false := by
      cases q with
      | fetch => cases hq
      | _ => rfl
    rw [hrequest]
    exact Nat.le_add_right _ _
  claim i w n d now a h c hc := by
    refine budget_step h i _ a ?_
    have hclaim : isClaim id (w.event machine i (.claimDelivery d now) a) = (d == id) := by
      show (d == id && ((run (.claimDelivery d now) a w.store).1).isSome) = _
      rw [hc, Option.isSome_some, Bool.and_true]
    have hrequest : isRequest id (w.event machine i (.claimDelivery d now) a) = false := rfl
    rw [hclaim, hrequest, claimDelivery_id hc, Bool.toNat_false, Nat.add_zero, Nat.add_comm]
  idle i w n d now a h _ := by
    refine budget_step h i _ a ?_
    have hrequest : isRequest id (w.event machine i (.claimDelivery d now) a) = false := rfl
    rw [hrequest]
    exact Nat.le_add_right _ _
  skip i w n c h := by
    refine ⟨?_, h.2⟩
    have := h.1
    rw [Nat.zero_add]
    omega
  send i w n c request a _ h := by
    refine budget_step h i _ a ?_
    have hrequest : isRequest id (w.event machine i (.fetch c.id request) a) = (c.id == id) := rfl
    rw [hrequest]
    omega
  settle i w n c s a h := by
    rw [Nat.zero_add] at h
    refine budget_step h i _ a ?_
    have hrequest : isRequest id (w.event machine i (.settle c s) a) = false := rfl
    rw [hrequest]
    exact Nat.le_add_right _ _

/-- Nothing is counted, and nothing gains attempts, while the store drifts. -/
lemma budget_drift (d : Deletion) (h : (budget id).inv w n) :
    (budget id).inv (w.drift machine d) n := by
  refine ⟨h.1, le_trans (Nat.add_le_add_left ?_ _) h.2⟩
  show (d.apply w.store).attemptsLeft id ≤ w.store.attemptsLeft id
  rw [Store.attemptsLeft, Store.attemptsLeft]
  rcases delivery_drift d w.store id with hsame | hgone
  · rw [hsame]
  · rw [hgone]
    exact Nat.zero_le _

end Runs

/-- **A subscriber is called at most seven times for each insertion or replay of a delivery**, each
time on a claim of its own, in every run of any number of workers. -/
theorem requests_bounded (platform : Platform) (id : String)
    {g : Config lang Store Call.Result}
    (h : (service platform).Reachable (Regime.free lang Store Call) g) :
    g.world.trace.countP (isRequest id) ≤ g.world.trace.countP (isClaim id) ∧
      g.world.trace.countP (isClaim id) + g.world.store.attemptsLeft id ≤
        MAX_DELIVERY_ATTEMPTS * g.world.trace.countP (isReset id) := by
  have hK := (budgetTickets platform id).keeps (fun s hs => ?_) fun d w n hI => budget_drift d hI
  · obtain ⟨n, hrequests, hclaims⟩ := hK.inv_of_reachable h
    exact ⟨le_trans (Nat.le_add_right _ n) hrequests, hclaims⟩
  · refine ⟨Nat.le_refl 0, ?_⟩
    have hnone : s.delivery? id = none := by
      unfold Store.delivery?
      rw [hs.2]
      rfl
    simp [Store.attemptsLeft, hnone]

/-! ## A run -/

/-- A platform whose hash is the text itself. -/
def plainPlatform : Platform where
  toISOString _ := "1970-01-01T00:00:00.000Z"
  sha256Hex text := text
  hmacSha256Hex _ _ := ""
  hmacSha256 secret _ := secret
  isSafeExternalUrl _ := true
  acceptsHeaders _ := .ok ()

/-- What the outside world contributes at a time, where requests are answered with `status`. -/
def contributes (now : Millis) (status : ℕ) : (q : Stmt) → q.Answer
  | .newDate => now
  | .insertEvent .. | .insertDeliveries _ => toSeconds now
  | .fetch .. => .ok status
  | .insertSubscription _ | .deleteSubscription .. | .selectSubscriptions _ | .failExhausted ..
  | .claimDue .. | .completeEvent .. | .failEvent .. | .rescheduleEvent .. | .deleteSettled _
  | .selectCreatedAt _ | .selectInitialized _ | .setInitialized _ | .deadLetterExpired ..
  | .selectDeliveries _ | .failUnavailable .. | .claimDelivery .. | .settle .. | .selectForReplay ..
  | .replay .. | .selectStatus _ => ()

/-- Call `i` executes `n` statements at a time. -/
def executes (i n : ℕ) (now : Millis) (status : ℕ) : List (service plainPlatform).Move :=
  List.replicate n (.exec i (contributes now status))

/-- A subscription to everything. -/
def everything : Subscription :=
  ⟨"sub", "ws", ["*"], none, "https://example.test", none, none, .legacy, true⟩

/-- An event that everything is subscribed to is enqueued. -/
def enqueued : List (service plainPlatform).Move :=
  [.start (.createSubscription everything)] ++ executes 0 1 0 200 ++
    [.start (.enqueueEvent "ev" "ws" "message.created" ⟨"\x7b\x7d", none, none, none⟩)] ++
      executes 1 1 0 200

/-- One round of a poll, its groups in turn. -/
def pollOnce : Call := .poll {} [⟨[], fun _ => ⟨[], []⟩⟩] false

/-- The first request for an event fails, and another worker delivers it after a minute. -/
def retriedRun : Config lang Store Call.Result :=
  (service plainPlatform).runFrom ⟨.empty, .empty, .empty⟩
    (enqueued ++ [.start pollOnce] ++ executes 2 20 1000 503 ++ [.start pollOnce] ++
      executes 3 20 70000 200)

lemma service_init_empty : (service plainPlatform).init ⟨.empty, .empty, .empty⟩ := ⟨rfl, rfl⟩

lemma retriedRun_reachable :
    (service plainPlatform).Reachable (Regime.free lang Store Call) retriedRun :=
  System.runFrom_reachable _ service_init_empty _

/-- A delivery that is sent twice. -/
theorem requests_bounded_retried :
    retriedRun.world.trace.countP (isRequest "whd_ev\x00sub") = 2 ∧
      retriedRun.world.trace.countP (isReset "whd_ev\x00sub") = 1 ∧
      retriedRun.world.trace.countP (isRequest "whd_ev\x00sub") ≤
        retriedRun.world.trace.countP (isClaim "whd_ev\x00sub") ∧
      retriedRun.world.trace.countP (isClaim "whd_ev\x00sub") +
          retriedRun.world.store.attemptsLeft "whd_ev\x00sub" ≤
        MAX_DELIVERY_ATTEMPTS * retriedRun.world.trace.countP (isReset "whd_ev\x00sub") :=
  ⟨by decide +kernel, by decide +kernel, requests_bounded plainPlatform _ retriedRun_reachable⟩

end Webhook
