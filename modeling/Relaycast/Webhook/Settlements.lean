import Mathlib.Algebra.Order.Group.Multiset
import Relaycast.Webhook.Budget

/-!
# What a settlement settles

A worker that comes back after its lease may find that another one has claimed the delivery, and its
settlement must not take effect then.  The settlement names the number of attempts its claim left.
That number grows with each claim and is only ever set back by a replay, or with a new row; so a
settlement that takes effect belongs to a claim of the same worker, and nobody has claimed the
delivery since, unless it was replayed (`settlements_fenced`).
-/

namespace Webhook

open Relational Interleaving

/-- The row a claim leaves. -/
def claimed? (e : Event lang Store) : Option WebhookDelivery :=
  match e.stmt, e.reply with
  | .claimDelivery .., (c : Option WebhookDelivery) => c
  | _, _ => none

/-- Does a settlement of the claim `c` take effect? -/
def settles (c : WebhookDelivery) (e : Event lang Store) : Bool :=
  match e.stmt with
  | .settle c' _ => decide (c' = c) && (e.before.delivery? c.id).any fun r => r.ownedBy c
  | _ => false

/-- A settlement of the claim `c` by the caller `i`, after what is in `older`: the claim is its own,
and nobody has claimed the delivery since, unless it was replayed or inserted again. -/
structure Fenced (i : ℕ) (c : WebhookDelivery) (older : List (Event lang Store)) : Prop where
  claimed : ∃ mid e₀ rest, older = mid ++ e₀ :: rest ∧ e₀.caller = i ∧ claimed? e₀ = some c ∧
    ((∃ e ∈ mid, isReset c.id e = true) ∨ ∀ e ∈ mid, isClaim c.id e = false)

/-! ## Attempts -/

section Step

variable {id : String} {w : World lang Store} {i : ℕ} {q : Stmt} {a : q.Answer}

/-- Short of a reset, a row was there before, and has one attempt more if it is claimed. -/
lemma attempts_step (hreset : isReset id (w.event machine i q a) = false) {r' : WebhookDelivery}
    (hr' : (run q a w.store).2.delivery? id = some r') :
    ∃ r, w.store.delivery? id = some r ∧
      r'.attempts = r.attempts + (isClaim id (w.event machine i q a)).toNat := by
  cases hclaim : isClaim id (w.event machine i q a) with
  | true =>
    cases q with
    | claimDelivery d now =>
      have hboth : d = id ∧ ((run (.claimDelivery d now) a w.store).1).isSome = true := by
        have h : (d == id && ((run (.claimDelivery d now) a w.store).1).isSome) = true := hclaim
        rwa [Bool.and_eq_true, beq_iff_eq] at h
      obtain ⟨rfl, hsome⟩ := hboth
      rcases claimDelivery_cases d now a w.store with hnone | ⟨r, hr, -, -, hafter⟩
      · rw [hnone] at hsome
        cases hsome
      · rw [hafter] at hr'
        obtain rfl := Option.some.inj hr'
        exact ⟨r, hr, rfl⟩
    | _ => cases hclaim
  | false =>
    simp only [Bool.toNat_false, Nat.add_zero]
    have hstep := delivery_step q a w.store id
    generalize hbefore : w.store.delivery? id = before at hstep ⊢
    rw [hr'] at hstep
    generalize hafter : some r' = after at hstep
    cases hstep with
    | same =>
      subst hafter
      exact ⟨r', rfl, rfl⟩
    | deadLetter | fail =>
      obtain rfl := Option.some.inj hafter
      exact ⟨_, rfl, rfl⟩
    | @settle r c x h =>
      obtain rfl := Option.some.inj hafter
      exact ⟨r, rfl, x.attempts_apply r⟩
    | remove => cases hafter
    | @claim r now h =>
      exfalso
      have hid : r.id = id := Store.delivery_id hbefore
      rcases claimDelivery_cases r.id now a w.store with hnone | ⟨_, -, -, hreply, -⟩
      · have hmem : r ∈ w.store.deliveries := List.mem_of_find?_eq_some hbefore
        have hreturned : r.claim now ∈ w.store.deliveries.returning
            (fun s => s.id == r.id && s.claimable now) (fun s => s.claim now) :=
          Table.mem_returning.mpr ⟨r, hmem, by simp [h], rfl⟩
        have hempty := List.head?_eq_none_iff.mp hnone
        rw [hempty] at hreturned
        cases hreturned
      · have hfalse :
            (r.id == id && ((run (.claimDelivery r.id now) a w.store).1).isSome) = false := hclaim
        rw [hreply, hid] at hfalse
        simp at hfalse
    | @replay r eventId now h =>
      exfalso
      have hid : r.id = id := Store.delivery_id hbefore
      simp [isReset, hid, hbefore, h] at hreset
    | @insert v values unixepoch h =>
      exfalso
      have hrun : ((machine.run (.insertDeliveries values) a w.store).2.delivery? id) = some r' :=
        hr'
      simp [isReset, hbefore, hrun] at hreset

end Step

/-! ## Claims and what came after -/

/-- Since a claim, short of resets, the attempts of the delivery have grown by the claims. -/
def AttemptsGrow (w : World lang Store) : Prop :=
  ∀ newer e₀ older c, w.trace = newer ++ e₀ :: older → claimed? e₀ = some c →
    (∀ e ∈ newer, isReset c.id e = false) → ∀ r, w.store.delivery? c.id = some r →
      r.attempts = c.attempts + newer.countP (isClaim c.id)

section World

variable {w : World lang Store}

lemma AttemptsGrow.after (h : AttemptsGrow w) (i : ℕ) (q : Stmt) (a : q.Answer) :
    AttemptsGrow (w.after machine i q a) := by
  intro newer e₀ older c htrace hclaimed hresets r hr
  rw [World.after_trace] at htrace
  cases newer with
  | nil =>
    -- The claim is what has just been executed.
    obtain ⟨rfl, -⟩ := List.cons.inj htrace
    cases q with
    | claimDelivery d now =>
      have hreply : (run (.claimDelivery d now) a w.store).1 = some c := hclaimed
      rcases claimDelivery_cases d now a w.store with hnone | ⟨r₀, -, -, hreply', hafter⟩
      · rw [hnone] at hreply
        cases hreply
      · have hc : some (r₀.claim now) = some c := hreply'.symm.trans hreply
        obtain rfl := Option.some.inj hc
        rw [claimDelivery_id hreply] at hr
        have hr' : some (r₀.claim now) = some r := hafter.symm.trans hr
        obtain rfl := Option.some.inj hr'
        rfl
    | _ => cases hclaimed
  | cons e newer =>
    obtain ⟨rfl, hrest⟩ := List.cons.inj htrace
    obtain ⟨r₀, hr₀, hattempts⟩ := attempts_step (hresets _ List.mem_cons_self) hr
    have hold := h newer e₀ older c hrest hclaimed
      (fun e he => hresets e (List.mem_cons_of_mem _ he)) r₀ hr₀
    rw [hattempts, hold, List.countP_cons, Nat.add_assoc]
    cases isClaim c.id (w.event machine i q a) <;> rfl

lemma AttemptsGrow.drift (h : AttemptsGrow w) (d : Deletion) :
    AttemptsGrow (w.drift machine d) := by
  intro newer e₀ older c htrace hclaimed hresets r hr
  refine h newer e₀ older c htrace hclaimed hresets r ?_
  rcases delivery_drift d w.store c.id with hsame | hgone
  · exact hsame.symm.trans hr
  · cases hgone.symm.trans hr

/-- Whoever holds a claim that is in the history can only settle behind the fence. -/
lemma AttemptsGrow.fenced (h : AttemptsGrow w) {i : ℕ} {c : WebhookDelivery} {e₀ : Event lang Store}
    (he₀ : e₀ ∈ w.trace) (hcaller : e₀.caller = i) (hclaimed : claimed? e₀ = some c)
    (howned : (w.store.delivery? c.id).any (fun r => r.ownedBy c) = true) : Fenced i c w.trace := by
  obtain ⟨mid, rest, htrace⟩ := List.append_of_mem he₀
  refine ⟨mid, e₀, rest, htrace, hcaller, hclaimed, ?_⟩
  by_cases hreset : ∃ e ∈ mid, isReset c.id e = true
  · exact .inl hreset
  refine .inr fun e he => ?_
  have hresets : ∀ e ∈ mid, isReset c.id e = false := fun e he =>
    Bool.eq_false_iff.mpr fun htrue => hreset ⟨e, he, htrue⟩
  obtain ⟨r, hr, hr'⟩ := Option.any_eq_true _ _ |>.mp howned
  simp only [WebhookDelivery.ownedBy, Bool.and_eq_true, beq_iff_eq] at hr'
  have hgrown := h mid e₀ rest c htrace hclaimed hresets r hr
  have hzero : mid.countP (isClaim c.id) = 0 := by
    have hattempts : r.attempts = c.attempts := hr'.1.2
    omega
  exact Bool.eq_false_iff.mpr (List.countP_eq_zero.mp hzero e he)

end World

/-! ## Runs -/

/-- The claims that calls hold are their own, and every settlement so far was fenced. -/
def fencing : Discipline lang Store (Multiset (ℕ × WebhookDelivery)) where
  rely _ _ _ := True
  refl _ _ := trivial
  trans _ _ _ _ _ _ := trivial
  inv w held :=
    AttemptsGrow w ∧
      (∀ t ∈ held, ∃ e₀ ∈ w.trace, e₀.caller = t.1 ∧ claimed? e₀ = some t.2) ∧
      ∀ newer e older c, w.trace = newer ++ e :: older → settles c e = true →
        Fenced e.caller c older

section Runs

variable {w : World lang Store} {held held' : Multiset (ℕ × WebhookDelivery)}

/-- A statement that is no settlement, or a settlement behind the fence, keeps the discipline. -/
lemma fencing_step (h : fencing.inv w held) (i : ℕ) (q : Stmt) (a : q.Answer)
    (hheld : ∀ t ∈ held', t ∈ held ∨ t.1 = i ∧ claimed? (w.event machine i q a) = some t.2)
    (hsettles : ∀ c, settles c (w.event machine i q a) = true → Fenced i c w.trace) :
    fencing.inv (w.after machine i q a) held' := by
  obtain ⟨hgrow, hown, hfenced⟩ := h
  refine ⟨hgrow.after i q a, fun t ht => ?_, fun newer e older c htrace hc => ?_⟩
  · rcases hheld t ht with ht | ⟨hcaller, hclaimed⟩
    · obtain ⟨e₀, he₀, hboth⟩ := hown t ht
      exact ⟨e₀, List.mem_cons_of_mem _ he₀, hboth⟩
    · exact ⟨_, List.mem_cons_self, hcaller.symm, hclaimed⟩
  · rw [World.after_trace] at htrace
    cases newer with
    | nil =>
      obtain ⟨rfl, rfl⟩ := List.cons.inj htrace
      exact hsettles c hc
    | cons _ newer =>
      obtain ⟨-, hrest⟩ := List.cons.inj htrace
      exact hfenced newer e older c hrest hc

/-- Claims as tickets. -/
def fencingTickets (platform : Platform) : Tickets platform fencing where
  lax _ _ _ := trivial
  toSend i c := {(i, c)}
  toSettle i c := {(i, c)}
  plain i w n q hq h a := by
    refine fencing_step h i q a (fun t ht => .inl ht) fun c hc => ?_
    cases q with
    | settle => cases hq
    | _ => cases hc
  claim i w n d now a h c hc := by
    refine fencing_step h i _ a (fun t ht => ?_) fun c hc => by cases hc
    rcases Multiset.mem_add.mp ht with ht | ht
    · obtain rfl := Multiset.mem_singleton.mp ht
      exact .inr ⟨rfl, hc⟩
    · exact .inl ht
  idle i w n d now a h _ := fencing_step h i _ a (fun t ht => .inl ht) fun c hc => by cases hc
  skip i w n c h := h
  send i w n c request a _ h := fencing_step h i _ a (fun t ht => .inl ht) fun c hc => by cases hc
  settle i w n c s a h := by
    refine fencing_step h i _ a (fun t ht => .inl (Multiset.mem_add.mpr (.inr ht))) fun c' hc => ?_
    have hboth : (decide (c = c') && (w.store.delivery? c'.id).any fun r => r.ownedBy c') = true :=
      hc
    rw [Bool.and_eq_true, decide_eq_true_eq] at hboth
    obtain ⟨rfl, howned⟩ := hboth
    obtain ⟨hgrow, hown, -⟩ := h
    obtain ⟨e₀, he₀, hcaller, hclaimed⟩ :=
      hown (i, c) (Multiset.mem_add.mpr (.inl (Multiset.mem_singleton_self _)))
    exact hgrow.fenced he₀ hcaller hclaimed howned

end Runs

/-- **A settlement takes effect only behind its fence**: on a claim of the same worker, with no
claim of the delivery since by anybody, unless the delivery was replayed or inserted again in
between. -/
theorem settlements_fenced (platform : Platform) {g : Config lang Store Call.Result}
    (h : (service platform).Reachable (Regime.free lang Store Call) g)
    {newer older : List (Event lang Store)} {e : Event lang Store} {c : WebhookDelivery}
    (htrace : g.world.trace = newer ++ e :: older) (hsettles : settles c e = true) :
    Fenced e.caller c older := by
  have hK := (fencingTickets platform).keeps (fun s _ => ?_) fun d w n hI => ?_
  · obtain ⟨n, -, -, hfenced⟩ := hK.inv_of_reachable h
    exact hfenced newer e older c htrace hsettles
  · refine ⟨fun newer e₀ older c htrace => ?_, fun t ht => ?_, fun newer e older c htrace => ?_⟩
    · simp at htrace
    · simp at ht
    · simp at htrace
  · exact ⟨hI.1.drift d, hI.2⟩

/-- A worker stops behind its claim, another one claims and delivers after a minute, and the first
comes back. -/
def racedRun : Config lang Store Call.Result :=
  (service plainPlatform).runFrom ⟨.empty, .empty, .empty⟩
    (enqueued ++ [.start pollOnce] ++ executes 2 12 1000 200 ++ [.start pollOnce] ++
      executes 3 20 70000 200 ++ executes 2 20 71000 503)

/-- The row a claim left in the race. -/
def racedClaim (attempts : ℕ) (nextAttemptAt : Seconds) : WebhookDelivery :=
  ⟨"whd_ev\x00sub", "ev", "sub", .pending, attempts, nextAttemptAt, none, none, 1, none⟩

lemma racedRun_reachable :
    (service plainPlatform).Reachable (Regime.free lang Store Call) racedRun :=
  System.runFrom_reachable _ service_init_empty _

/-- The second worker settles, and the first does not. -/
theorem settlements_fenced_raced :
    racedRun.world.trace.any (settles (racedClaim 1 61)) = false ∧
      ∃ newer e older, racedRun.world.trace = newer ++ e :: older ∧
        settles (racedClaim 2 130) e = true ∧ Fenced e.caller (racedClaim 2 130) older := by
  refine ⟨by decide +kernel, ?_⟩
  have hany : racedRun.world.trace.any (settles (racedClaim 2 130)) = true := by decide +kernel
  obtain ⟨e, he, hsettles⟩ := List.any_eq_true.mp hany
  obtain ⟨newer, older, htrace⟩ := List.append_of_mem he
  exact ⟨newer, e, older, htrace, hsettles,
    settlements_fenced plainPlatform racedRun_reachable htrace hsettles⟩

end Webhook
