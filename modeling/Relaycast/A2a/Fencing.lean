import Relaycast.A2a.Egress
import Relaycast.Interleaving.History

/-!
# The egress is fenced by its tokens

A row's claim token belongs to the one worker that drew it, and a settlement finds the row only
under the token of its own worker.  So a worker that has lost the row changes nothing, a target is
credited with exactly the rows that reach `sent`, and a settled row stays as it is until it is
deleted.  The cleanup spares the row of a worker whose lease runs; a retry deadline, which is kept
in the same column, it does not spare.
-/

namespace A2a

open Relational Interleaving

/-! ## Events -/

/-- The token an event draws. -/
def drawn : Event lang Store → Option Token
  | ⟨_, .randomUuid, _, (token : Token), _, _⟩ => some token
  | _ => none

/-- The token under which an event has claimed a row, and the row's target. -/
def wonClaim : Event lang Store → Option (Token × TargetId)
  | ⟨_, .claim _ token, _, (intent : Option Row), _, _⟩ => intent.map fun r => (token, r.targetId)
  | _ => none

/-- The row and the token of a settlement. -/
def settlement (e : Event lang Store) : Option (EgressId × Token) :=
  match e.stmt with
  | .settleFailure id token _ | .settleSent id token _ => some (id, token)
  | _ => none

/-- The clock of a cleanup, or of an expiry for reuse. -/
def cleansAt : Event lang Store → Option Millis
  | ⟨_, .cleanup _, (now : Millis), _, _, _⟩ => some now
  | ⟨_, .expireForReuse _ now, _, _, _, _⟩ => some now
  | _ => none

/-- Has call `i` drawn the token? -/
def Drew (w : World lang Store) (i : ℕ) (token : Token) : Prop :=
  ∃ e ∈ w.eventsOf i, drawn e = some token

/-! ## What is claimed of the egress -/

/-- Is the row of a target `sent` and was it not in `s`? -/
def arrives (s : Store) (targetId : TargetId) (r : Row) : Bool :=
  r.targetId == targetId && r.status == .sent && !(s.row? r.id).any fun r' => r'.status == .sent

/-- How many rows of a target are `sent` in `s'` that were not in `s`. -/
def arrivals (s s' : Store) (targetId : TargetId) : ℕ := s'.egress.count (arrives s targetId)

/-- What a step does to the counters and to settled rows. -/
structure StepFenced (s s' : Store) : Prop where
  /-- A registration is credited with the rows that reach `sent`, and with no other. -/
  counted : ∀ t ∈ s.targets, ∀ t' ∈ s'.targets, t'.id = t.id →
    t'.messagesSent = t.messagesSent + arrivals s s' t.id
  /-- A settled row stays as it is, unless it is deleted. -/
  terminal_kept : ∀ r ∈ s.egress, r.status.isTerminal = true → ∀ r' ∈ s'.egress, r'.id = r.id →
    r' = r

/-- The fencing of the egress. -/
structure EgressFenced (w : World lang Store) : Prop where
  /-- At most one worker holds the token of a row. -/
  one_holder : ∀ r ∈ w.store.egress, ∀ token, r.claimToken = some token →
    ∀ i j, Drew w i token → Drew w j token → i = j
  /-- A worker settles under the token it drew, and changes nothing once the row has another. -/
  fenced : ∀ e ∈ w.trace, ∀ id token, settlement e = some (id, token) → Drew w e.caller token ∧
    ((∀ r ∈ e.before.egress, r.id = id → r.claimToken ≠ some token) → e.after = e.before)
  /-- Settled rows carry no payload. -/
  scrubbed : ∀ r ∈ w.store.egress, r.status.isTerminal = true → r.payload = none
  /-- A cleanup leaves the row of a running lease alone. -/
  spares : ∀ e ∈ w.trace, ∀ now, cleansAt e = some now → ∀ r ∈ e.before.egress,
    r.status = .sending → r.leased now = true → r ∈ e.after.egress

/-! ## Single statements -/

namespace Store

variable {s : Store}

/-- A stored row is determined by its id. -/
lemma row_ext {r r' : Row} (hr : r ∈ s.egress) (hr' : r' ∈ s.egress) (h : r.id = r'.id) : r = r' :=
  Table.eq_of_clash hr hr' (beq_iff_eq.mpr h)

lemma row?_of_mem {r : Row} (hr : r ∈ s.egress) : s.row? r.id = some r := by
  cases h : s.row? r.id with
  | none => simpa using List.find?_eq_none.mp h r hr
  | some r' =>
    have hid : r'.id = r.id := by simpa using List.find?_some h
    exact congrArg some (row_ext (List.mem_of_find?_eq_some h) hr hid)

/-- A row of an updated table. -/
lemma mem_updateEgress_cases {p : Row → Bool} {f : Row → Row} {hf : KeepsId f} {r' : Row}
    (h : r' ∈ (s.updateEgress p f hf).egress) :
    (r' ∈ s.egress ∧ p r' = false) ∨ ∃ r ∈ s.egress, p r = true ∧ r' = f r := by
  have hupdated : r' ∈ s.egress.update p f hf := h
  exact Table.mem_update_cases hupdated

/-- A row's token says that a worker is sending it, and a settled row has no payload. -/
structure WellFormed (s : Store) : Prop where
  sending_of_token : ∀ r ∈ s.egress, r.claimToken.isSome = true → r.status = .sending
  scrubbed : ∀ r ∈ s.egress, r.status.isTerminal = true → r.payload = none

/-- A settlement under a token the row does not have changes nothing. -/
lemma updateEgress_of_miss {p : Row → Bool} {f : Row → Row} {hf : KeepsId f}
    (h : ∀ r ∈ s.egress, p r = false) : s.updateEgress p f hf = s := by
  have hrows : (s.egress.rows.map fun r => if p r then f r else r) = s.egress.rows := by
    have hid : (s.egress.rows.map fun r => if p r then f r else r) = s.egress.rows.map id := by
      refine List.map_congr_left fun r hr => ?_
      rw [if_neg (by rw [h r hr]; simp), id]
    rw [hid, List.map_id]
  have htable : s.egress.update p f hf = s.egress := by
    cases hs : s.egress with
    | mk rows unique =>
      simp only [Table.update, Table.mk.injEq]
      rw [hs] at hrows
      exact hrows
  rw [updateEgress, htable]

/-- A claim returns the row it hits. -/
lemma claim_of_hit {r : Row} (hr : r ∈ s.egress) {id : EgressId} {token : Token} {now : Millis}
    (hp : (r.id == id && s.claimable now r) = true) :
    (s.claim id token now).1 = some (r.claimed token now) := by
  unfold claim
  dsimp only
  cases hfind : s.egress.rows.find? (fun r => r.id == id && s.claimable now r) with
  | none => exact absurd hp (List.find?_eq_none.mp hfind r hr)
  | some r₁ =>
    have hhit := List.find?_some hfind
    simp only [Bool.and_eq_true, beq_iff_eq] at hhit hp
    rw [row_ext (List.mem_of_find?_eq_some hfind) hr (hhit.1.trans hp.1.symm)]
    rfl

/-- An update keeps well-formedness if it does on the rows it hits. -/
lemma WellFormed.updateEgress (h : s.WellFormed) {p : Row → Bool} {f : Row → Row} {hf : KeepsId f}
    (htoken : ∀ r ∈ s.egress, p r = true → (f r).claimToken.isSome = true → (f r).status = .sending)
    (hpayload : ∀ r ∈ s.egress, p r = true → (f r).status.isTerminal = true →
      (f r).payload = none) : (s.updateEgress p f hf).WellFormed := by
  refine ⟨fun r hr => ?_, fun r hr => ?_⟩
  · rcases mem_updateEgress_cases hr with ⟨hold, -⟩ | ⟨r, hold, hp, rfl⟩
    · exact h.sending_of_token r hold
    · exact htoken r hold hp
  · rcases mem_updateEgress_cases hr with ⟨hold, -⟩ | ⟨r, hold, hp, rfl⟩
    · exact h.scrubbed r hold
    · exact hpayload r hold hp

end Store

/-- **Every statement keeps the store well formed.** -/
lemma wellFormed_run {s : Store} (h : s.WellFormed) (q : Stmt) (a : q.Answer) :
    (run q a s).2.WellFormed := by
  cases q with
  | getEgress | getSource | dateNow | recheck | fetch => exact h
  | randomUuid => exact ⟨h.sending_of_token, h.scrubbed⟩
  | claim id token =>
    refine h.updateEgress (fun _ _ _ _ => rfl) fun _ _ _ hterminal => ?_
    simp [Row.claimed, Status.isTerminal] at hterminal
  | settleFailure id token failure =>
    refine h.updateEgress (fun r _ _ htoken => ?_) fun r _ _ hterminal => ?_
    · simp [Row.failedWith] at htoken
    · by_cases hretry : failure.isRetryable = true
      · simp [Row.failedWith, hretry, Status.isTerminal] at hterminal
      · simp [Row.failedWith, hretry]
  | settleSent id token targetId =>
    have hcounted : (s.countSent id token targetId).WellFormed :=
      ⟨h.sending_of_token, h.scrubbed⟩
    refine hcounted.updateEgress (fun r _ _ htoken => ?_) fun _ _ _ _ => rfl
    simp [Row.settledSent] at htoken
  | cleanup limit =>
    exact ⟨fun r hr => h.sending_of_token r (Table.mem_deleteWhere.mp hr).1,
      fun r hr => h.scrubbed r (Table.mem_deleteWhere.mp hr).1⟩
  | expireForReuse id now =>
    exact ⟨fun r hr => h.sending_of_token r (Table.mem_deleteWhere.mp hr).1,
      fun r hr => h.scrubbed r (Table.mem_deleteWhere.mp hr).1⟩

/-- So does everything outside. -/
lemma wellFormed_drift {s : Store} (h : s.WellFormed) (d : Drift) : (drift d s).WellFormed := by
  cases d with
  | accept a =>
    refine ⟨fun r hr => ?_, fun r hr => ?_⟩
    · rcases Table.mem_insertOrIgnore hr with hr | ⟨rfl, -⟩
      · exact h.sending_of_token r hr
      · exact fun htoken => by simp [Admission.row] at htoken
    · rcases Table.mem_insertOrIgnore hr with hr | ⟨rfl, -⟩
      · exact h.scrubbed r hr
      · exact fun hterminal => by simp [Admission.row, Status.isTerminal] at hterminal
  | retained | register | rotate | withdraw => exact ⟨h.sending_of_token, h.scrubbed⟩

/-! ## Counting what arrives -/

namespace Store

variable {s s' : Store}

/-- Nothing arrives where every sent row was there before. -/
lemma arrivals_eq_zero (h : ∀ r ∈ s'.egress, r.status = .sent → r ∈ s.egress) (x : TargetId) :
    arrivals s s' x = 0 := by
  refine List.countP_eq_zero.mpr fun r hr harrives => ?_
  simp only [arrives, Bool.and_eq_true, beq_iff_eq, Bool.not_eq_true'] at harrives
  obtain ⟨⟨-, hsent⟩, hnew⟩ := harrives
  rw [row?_of_mem (h r hr hsent)] at hnew
  simp [hsent] at hnew

/-- A step that leaves the registrations and settles no row as sent. -/
lemma stepFenced_of_targets (htargets : s'.targets = s.targets)
    (hsent : ∀ r ∈ s'.egress, r.status = .sent → r ∈ s.egress)
    (hkept : ∀ r ∈ s.egress, r.status.isTerminal = true → ∀ r' ∈ s'.egress, r'.id = r.id → r' = r) :
    StepFenced s s' := by
  refine ⟨fun t ht t' ht' hid => ?_, hkept⟩
  rw [htargets] at ht'
  have hsame : t' = t := Table.eq_of_clash ht' ht (beq_iff_eq.mpr hid)
  rw [hsame, arrivals_eq_zero hsent]
  omega

/-- A settled row is not hit by an update of open rows. -/
lemma terminal_kept_of_update {p : Row → Bool} {f : Row → Row} {hf : KeepsId f}
    (hp : ∀ r ∈ s.egress, p r = true → r.status.isTerminal = false) :
    ∀ r ∈ s.egress, r.status.isTerminal = true → ∀ r' ∈ (s.updateEgress p f hf).egress,
      r'.id = r.id → r' = r := by
  intro r hr hterminal r' hr' hid
  rcases mem_updateEgress_cases hr' with ⟨hold, -⟩ | ⟨r₀, hold, hp₀, rfl⟩
  · exact row_ext hold hr hid
  · have hid₀ : r₀.id = r.id := (hf r₀).symm.trans hid
    have hopen := hp r₀ hold hp₀
    rw [row_ext hold hr hid₀, hterminal] at hopen
    simp at hopen

/-- A step that only deletes rows. -/
lemma stepFenced_of_delete (p : Row → Bool) :
    StepFenced s { s with egress := s.egress.deleteWhere p } :=
  stepFenced_of_targets rfl (fun _ hr _ => (Table.mem_deleteWhere.mp hr).1)
    fun _ hr _ _ hr' hid => row_ext (Table.mem_deleteWhere.mp hr').1 hr hid

/-- A row that a settlement hits is being sent. -/
lemma WellFormed.not_terminal_of_token (h : s.WellFormed) {r : Row} (hr : r ∈ s.egress)
    {id : EgressId} {token : Token} (hp : (r.id == id && r.claimToken == some token) = true) :
    r.status = .sending := by
  simp only [Bool.and_eq_true, beq_iff_eq] at hp
  exact h.sending_of_token r hr (by rw [hp.2]; rfl)

lemma nodup_egress : s.egress.rows.Nodup :=
  .of_map Row.id (s.egress.nodup_map fun _ _ h => beq_iff_eq.mpr h)

/-- What arrives by the settlement of a sent row: that row. -/
lemma arrivals_settleSent (h : s.WellFormed) (id : EgressId) {token : Token} {targetId : TargetId}
    (htarget : ∀ r ∈ s.egress, r.claimToken = some token → r.targetId = targetId) (x : TargetId) :
    arrivals s (s.settleSent id token targetId) x =
      if (x == targetId && s.holdsClaim id token) = true then 1 else 0 := by
  by_cases hholds : s.holdsClaim id token = true
  · obtain ⟨r, hr, hrow⟩ := List.any_eq_true.mp hholds
    simp only [Bool.and_eq_true, beq_iff_eq] at hrow
    obtain ⟨⟨hid, htoken⟩, hsending⟩ := hrow
    have hcount := countP_map_of_unique (f := Row.settledSent) (q := arrives s x)
      (p := fun r' => r'.id == id && r'.claimToken == some token) nodup_egress hr fun r' hr' => by
        constructor
        · intro hp
          simp only [Bool.and_eq_true, beq_iff_eq] at hp
          exact row_ext hr' hr (hp.1.trans hid.symm)
        · rintro rfl
          simp [hid, htoken]
    have hold : s.egress.rows.countP (arrives s x) = 0 := arrivals_eq_zero (fun r' hr' _ => hr') x
    have hbefore : arrives s x r = false := by simp [arrives, hsending]
    have hafter : arrives s x r.settledSent = (r.targetId == x) := by
      simp [arrives, Row.settledSent, row?_of_mem hr, hsending]
    rw [hold, hbefore, hafter, Bool.toNat_false, Nat.zero_add, Nat.add_zero] at hcount
    have hcount' : arrivals s (s.settleSent id token targetId) x = (r.targetId == x).toNat := hcount
    rw [hcount', htarget r hr htoken, hholds, Bool.and_true]
    by_cases hx : x = targetId
    · simp [hx]
    · rw [if_neg (by simpa using hx)]
      simp [Ne.symm hx]
  · rw [if_neg (by simp [hholds])]
    refine arrivals_eq_zero (fun r hr hsent => ?_) x
    rcases mem_updateEgress_cases hr with ⟨hmem, -⟩ | ⟨r₀, hmem, hp, rfl⟩
    · exact hmem
    · have hmem : r₀ ∈ s.egress := hmem
      refine absurd (List.any_eq_true.mpr ⟨r₀, hmem, ?_⟩) hholds
      have hsending := h.not_terminal_of_token hmem hp
      rw [hsending]
      simpa using hp

end Store

/-- **Every statement credits and keeps**, a settlement provided that it names the target of the
row it holds. -/
lemma stepFenced_run {s : Store} (h : s.WellFormed) (q : Stmt) (a : q.Answer)
    (hq : ∀ id token targetId, q = .settleSent id token targetId →
      ∀ r ∈ s.egress, r.claimToken = some token → r.targetId = targetId) :
    StepFenced s (run q a s).2 := by
  cases q with
  | getEgress | getSource | dateNow | recheck | fetch | randomUuid =>
    exact Store.stepFenced_of_targets rfl (fun r hr _ => hr) fun r hr _ r' hr' hid =>
      Store.row_ext hr' hr hid
  | claim id token =>
    refine Store.stepFenced_of_targets rfl (fun r hr hsent => ?_)
      (Store.terminal_kept_of_update fun r _ hp => ?_)
    · rcases Store.mem_updateEgress_cases hr with ⟨hold, -⟩ | ⟨r₀, -, -, rfl⟩
      · exact hold
      · simp [Row.claimed] at hsent
    · simp only [Store.claimable, Bool.and_eq_true, Bool.or_eq_true, beq_iff_eq] at hp
      rcases hp.2 with ⟨hpending, -⟩ | ⟨hsending, -⟩
      · rw [hpending]
        rfl
      · rw [hsending]
        rfl
  | settleFailure id token failure =>
    refine Store.stepFenced_of_targets rfl (fun r hr hsent => ?_)
      (Store.terminal_kept_of_update fun r hr hp => ?_)
    · rcases Store.mem_updateEgress_cases hr with ⟨hold, -⟩ | ⟨r₀, -, -, rfl⟩
      · exact hold
      · by_cases hretry : failure.isRetryable = true <;> simp [Row.failedWith, hretry] at hsent
    · rw [h.not_terminal_of_token hr hp]
      rfl
  | settleSent id token targetId =>
    have hkept : ∀ r ∈ s.egress, r.status.isTerminal = true →
        ∀ r' ∈ (s.settleSent id token targetId).egress, r'.id = r.id → r' = r :=
      Store.terminal_kept_of_update (s := s.countSent id token targetId) fun r hr hp => by
        rw [h.not_terminal_of_token hr hp]
        rfl
    refine ⟨fun t ht t' ht' hid => ?_, hkept⟩
    have hcredited : t' ∈ s.targets.update (fun t => t.id == targetId && s.holdsClaim id token)
        (fun t => { t with messagesSent := t.messagesSent + 1 }) fun _ => rfl := ht'
    obtain ⟨t₀, ht₀, rfl⟩ := Table.mem_update.mp hcredited
    have hid₀ : t₀.id = t.id := by
      by_cases hp : (t₀.id == targetId && s.holdsClaim id token) = true
      · rw [if_pos hp] at hid
        exact hid
      · rw [if_neg hp] at hid
        exact hid
    have hsame : t₀ = t := Table.eq_of_clash ht₀ ht (beq_iff_eq.mpr hid₀)
    subst hsame
    have harrivals := Store.arrivals_settleSent h id (hq id token targetId rfl) t₀.id
    show _ = t₀.messagesSent + arrivals s (s.settleSent id token targetId) t₀.id
    rw [harrivals]
    split_ifs <;> rfl
  | cleanup limit => exact Store.stepFenced_of_delete _
  | expireForReuse id now => exact Store.stepFenced_of_delete _

/-- Nothing outside credits a registration or touches a settled row. -/
lemma stepFenced_drift (s : Store) (d : Drift) : StepFenced s (drift d s) := by
  have hrows : ∀ r ∈ s.egress, r.status.isTerminal = true → ∀ r' ∈ s.egress, r'.id = r.id → r' = r :=
    fun r hr _ r' hr' hid => Store.row_ext hr' hr hid
  cases d with
  | accept a =>
    refine Store.stepFenced_of_targets rfl (fun r hr hsent => ?_) fun r hr _ r' hr' hid => ?_
    · rcases Table.mem_insertOrIgnore hr with hold | ⟨rfl, -⟩
      · exact hold
      · simp [Admission.row] at hsent
    · rcases Table.mem_insertOrIgnore hr' with hold | ⟨rfl, hnew⟩
      · exact Store.row_ext hold hr hid
      · have hclash := List.any_eq_false.mp hnew r hr
        exact absurd (beq_iff_eq.mpr hid.symm) hclash
  | retained => exact Store.stepFenced_of_targets rfl (fun r hr _ => hr) hrows
  | register t =>
    refine ⟨fun t₀ ht₀ t' ht' hid => ?_, hrows⟩
    have hzero : arrivals s (drift (.register t) s) t₀.id = 0 :=
      Store.arrivals_eq_zero (fun r hr _ => hr) _
    rw [hzero]
    rcases Table.mem_insertOrIgnore ht' with hold | ⟨rfl, hnew⟩
    · rw [Table.eq_of_clash hold ht₀ (beq_iff_eq.mpr hid)]
      omega
    · have hclash := List.any_eq_false.mp hnew t₀ ht₀
      exact absurd (beq_iff_eq.mpr hid.symm) hclash
  | rotate id externalUrl authScheme authCredential =>
    refine ⟨fun t₀ ht₀ t' ht' hid => ?_, hrows⟩
    have hzero : arrivals s (drift (.rotate id externalUrl authScheme authCredential) s) t₀.id = 0 :=
      Store.arrivals_eq_zero (fun r hr _ => hr) _
    rw [hzero]
    have hrotated : t' ∈ s.targets.update (fun t => t.id == id)
        (fun t => { t with
          externalUrl := externalUrl, authScheme := authScheme, authCredential := authCredential })
        fun _ => rfl := ht'
    obtain ⟨t, ht, rfl⟩ := Table.mem_update.mp hrotated
    have hid₀ : t.id = t₀.id := by
      split_ifs at hid <;> exact hid
    have hsame : t = t₀ := Table.eq_of_clash ht ht₀ (beq_iff_eq.mpr hid₀)
    rw [hsame]
    split_ifs <;> rfl
  | withdraw id =>
    refine ⟨fun t₀ ht₀ t' ht' hid => ?_, hrows⟩
    have hzero : arrivals s (drift (.withdraw id) s) t₀.id = 0 :=
      Store.arrivals_eq_zero (fun r hr _ => hr) _
    rw [hzero, Table.eq_of_clash (Table.mem_deleteWhere.mp ht').1 ht₀ (beq_iff_eq.mpr hid)]
    omega

/-! ## What all calls keep -/

/-- Tokens are drawn once, every row is claimed under a token of its worker, and what has been
executed is fenced. -/
structure FencingInv (w : World lang Store) : Prop where
  wellFormed : w.store.WellFormed
  drawn_lt : ∀ e ∈ w.trace, ∀ token, drawn e = some token → token < w.store.nextToken
  drawn_once : w.trace.Pairwise fun e e' => ∀ token, drawn e = some token → drawn e' ≠ some token
  claim_drawn : ∀ e ∈ w.trace, ∀ token x, wonClaim e = some (token, x) → Drew w e.caller token
  claimed : ∀ r ∈ w.store.egress, ∀ token, r.claimToken = some token →
    ∃ e ∈ w.trace, wonClaim e = some (token, r.targetId)
  fenced : ∀ e ∈ w.trace, ∀ id token, settlement e = some (id, token) → Drew w e.caller token ∧
    ((∀ r ∈ e.before.egress, r.id = id → r.claimToken ≠ some token) → e.after = e.before)
  spares : ∀ e ∈ w.trace, ∀ now, cleansAt e = some now → ∀ r ∈ e.before.egress,
    r.status = .sending → r.leased now = true → r ∈ e.after.egress
  steps : ∀ e ∈ w.trace, StepFenced e.before e.after

/-- No two calls draw one token. -/
lemma FencingInv.eq_of_drew {w : World lang Store} (h : FencingInv w) {i j : ℕ} {token : Token}
    (hi : Drew w i token) (hj : Drew w j token) : i = j := by
  obtain ⟨e, he, hdrawn⟩ := hi
  obtain ⟨e', he', hdrawn'⟩ := hj
  obtain ⟨hmem, hcaller⟩ := List.mem_filter.mp he
  obtain ⟨hmem', hcaller'⟩ := List.mem_filter.mp he'
  have hsymm : Std.Symm fun e e' : Event lang Store =>
      ∀ token, drawn e = some token → drawn e' ≠ some token :=
    ⟨fun a b hab token hb ha => hab token ha hb⟩
  have hsame : e = e' := by
    by_contra hne
    exact h.drawn_once.forall hmem hmem' hne token hdrawn hdrawn'
  rw [← beq_iff_eq.mp hcaller, ← beq_iff_eq.mp hcaller', hsame]

section Steps

variable {w : World lang Store} {i : ℕ}

/-- What a call has drawn stays drawn. -/
lemma Drew.after {j : ℕ} {token : Token} (h : Drew w j token) (q : Stmt) (a : q.Answer) :
    Drew (w.after machine i q a) j token := by
  obtain ⟨e, he, hdrawn⟩ := h
  obtain ⟨hmem, hcaller⟩ := List.mem_filter.mp he
  exact ⟨e, List.mem_filter.mpr ⟨List.mem_cons_of_mem _ hmem, hcaller⟩, hdrawn⟩

/-- A settlement under another token changes nothing. -/
lemma run_of_settlement_miss {q : Stmt} {a : q.Answer} {id : EgressId} {token : Token}
    (hq : settlement (w.event machine i q a) = some (id, token))
    (hmiss : ∀ r ∈ w.store.egress, r.id = id → r.claimToken ≠ some token) :
    (run q a w.store).2 = w.store := by
  have hp : ∀ r ∈ w.store.egress, (r.id == id && r.claimToken == some token) = false := by
    intro r hr
    by_cases hid : r.id = id
    · simp [hmiss r hr hid]
    · simp [hid]
  cases q with
  | settleFailure x t failure =>
    obtain ⟨rfl, rfl⟩ := Prod.mk.inj (Option.some.inj hq)
    exact Store.updateEgress_of_miss hp
  | settleSent x t targetId =>
    obtain ⟨rfl, rfl⟩ := Prod.mk.inj (Option.some.inj hq)
    have hholds : w.store.holdsClaim x t = false := by
      refine List.any_eq_false.mpr fun r hr hrow => ?_
      rw [hp r hr] at hrow
      simp at hrow
    have hcounted : w.store.countSent x t targetId = w.store := by
      have htargets : w.store.targets.update
          (fun t' => t'.id == targetId && w.store.holdsClaim x t)
          (fun t' => { t' with messagesSent := t'.messagesSent + 1 }) (fun _ => rfl) =
            w.store.targets := by
        cases hs : w.store.targets with
        | mk rows unique => simp [Table.update, hholds]
      rw [Store.countSent, htargets]
    show (w.store.countSent x t targetId).updateEgress _ _ _ = w.store
    rw [hcounted]
    exact Store.updateEgress_of_miss hp
  | getEgress | getSource | randomUuid | dateNow | claim | recheck | fetch | cleanup
  | expireForReuse => simp [settlement, World.event] at hq

/-- A cleanup spares the row of a running lease. -/
lemma mem_run_of_leased {q : Stmt} {a : q.Answer} {now : Millis}
    (hq : cleansAt (w.event machine i q a) = some now) {r : Row} (hr : r ∈ w.store.egress)
    (hsending : r.status = .sending) (hleased : r.leased now = true) :
    r ∈ (run q a w.store).2.egress := by
  have hkept : r.cleanupEligible now = false := by
    cases hlease : r.leaseUntil with
    | none => simp [Row.leased, hlease] at hleased
    | some until' =>
      have hrunning : toSeconds now < until' := by simpa [Row.leased, hlease] using hleased
      have hover : ¬ until' ≤ toSeconds now := Nat.not_le.mpr hrunning
      simp [Row.cleanupEligible, Row.leaseOver, hlease, hsending, hover]
  cases q with
  | cleanup limit =>
    obtain rfl : a = now := Option.some.inj hq
    refine Table.mem_deleteWhere.mpr ⟨hr, ?_⟩
    rw [List.contains_eq_mem, decide_eq_false_iff_not]
    intro hcandidate
    obtain ⟨r', hr', hid⟩ := List.mem_map.mp hcandidate
    have hselected := List.mem_mergeSort.mp (List.mem_of_mem_take hr')
    obtain ⟨hmem, heligible⟩ := Table.mem_select.mp hselected
    rw [Store.row_ext hmem hr hid, hkept] at heligible
    simp at heligible
  | expireForReuse id now' =>
    obtain rfl : now' = now := Option.some.inj hq
    exact Table.mem_deleteWhere.mpr ⟨hr, by rw [hkept, Bool.and_false]⟩
  | getEgress | getSource | randomUuid | dateNow | claim | recheck | fetch | settleFailure
  | settleSent => simp [cleansAt, World.event] at hq

/-- **What a statement has to respect** for the invariant to go on. -/
lemma FencingInv.step (h : FencingInv w) (q : Stmt) (a : q.Answer)
    (hnext : w.store.nextToken ≤ (run q a w.store).2.nextToken)
    (hdrawn : ∀ token, drawn (w.event machine i q a) = some token →
      w.store.nextToken ≤ token ∧ token < (run q a w.store).2.nextToken)
    (hclaim : ∀ token x, wonClaim (w.event machine i q a) = some (token, x) → Drew w i token)
    (hrows : ∀ r ∈ (run q a w.store).2.egress, ∀ token, r.claimToken = some token →
      (∃ r₀ ∈ w.store.egress, r₀.claimToken = some token ∧ r₀.targetId = r.targetId) ∨
        wonClaim (w.event machine i q a) = some (token, r.targetId))
    (hsettle : ∀ id token, settlement (w.event machine i q a) = some (id, token) → Drew w i token)
    (htarget : ∀ id token targetId, q = .settleSent id token targetId →
      ∀ r ∈ w.store.egress, r.claimToken = some token → r.targetId = targetId) :
    FencingInv (w.after machine i q a) where
  wellFormed := wellFormed_run h.wellFormed q a
  drawn_lt := by
    intro e he token htoken
    rcases List.mem_cons.mp he with rfl | he
    · exact (hdrawn token htoken).2
    · exact Nat.lt_of_lt_of_le (h.drawn_lt e he token htoken) hnext
  drawn_once := by
    refine List.pairwise_cons.mpr ⟨fun e he token htoken hdrawn' => ?_, h.drawn_once⟩
    exact absurd (h.drawn_lt e he token hdrawn') (Nat.not_lt.mpr (hdrawn token htoken).1)
  claim_drawn := by
    intro e he token x hwon
    rcases List.mem_cons.mp he with rfl | he
    · exact (hclaim token x hwon).after q a
    · exact (h.claim_drawn e he token x hwon).after q a
  claimed := by
    intro r hr token htoken
    rcases hrows r hr token htoken with ⟨r₀, hr₀, htoken₀, hsame⟩ | hwon
    · obtain ⟨e, he, hwon⟩ := h.claimed r₀ hr₀ token htoken₀
      exact ⟨e, List.mem_cons_of_mem _ he, hsame ▸ hwon⟩
    · exact ⟨_, List.mem_cons_self, hwon⟩
  fenced := by
    intro e he id token hsettled
    rcases List.mem_cons.mp he with rfl | he
    · exact ⟨(hsettle id token hsettled).after q a, run_of_settlement_miss hsettled⟩
    · exact ⟨(h.fenced e he id token hsettled).1.after q a, (h.fenced e he id token hsettled).2⟩
  spares := by
    intro e he now hcleans r hr hsending hleased
    rcases List.mem_cons.mp he with rfl | he
    · exact mem_run_of_leased hcleans hr hsending hleased
    · exact h.spares e he now hcleans r hr hsending hleased
  steps := by
    intro e he
    rcases List.mem_cons.mp he with rfl | he
    · exact stepFenced_run h.wellFormed q a htarget
    · exact h.steps e he

/-! ## The calls -/

/-- A statement that draws no token, claims nothing and settles nothing. -/
def Stmt.isPlain : Stmt → Bool
  | .randomUuid | .claim .. | .settleFailure .. | .settleSent .. => false
  | _ => true

/-- A row of the store after a plain statement was there before. -/
lemma mem_run_of_isPlain {q : Stmt} (hq : q.isPlain = true) (a : q.Answer) {r : Row}
    (hr : r ∈ (run q a w.store).2.egress) : r ∈ w.store.egress := by
  cases q with
  | getEgress | getSource | dateNow | recheck | fetch => exact hr
  | cleanup | expireForReuse => exact (Table.mem_deleteWhere.mp hr).1
  | randomUuid | claim | settleFailure | settleSent => simp [Stmt.isPlain] at hq

/-- What a plain statement is not. -/
lemma event_of_isPlain {q : Stmt} (hq : q.isPlain = true) (a : q.Answer) :
    drawn (w.event machine i q a) = none ∧ wonClaim (w.event machine i q a) = none ∧
      settlement (w.event machine i q a) = none ∧
        (run q a w.store).2.nextToken = w.store.nextToken := by
  cases q with
  | getEgress | getSource | dateNow | recheck | fetch | cleanup | expireForReuse =>
    exact ⟨rfl, rfl, rfl, rfl⟩
  | randomUuid | claim | settleFailure | settleSent => simp [Stmt.isPlain] at hq

/-- A plain statement keeps the invariant. -/
lemma FencingInv.plain (h : FencingInv w) {q : Stmt} (hq : q.isPlain = true) (a : q.Answer) :
    FencingInv (w.after machine i q a) := by
  obtain ⟨hdrawn, hwon, hsettled, hnext⟩ := event_of_isPlain (w := w) (i := i) hq a
  refine h.step q a (le_of_eq hnext.symm) (fun t ht => ?_) (fun t x hx => ?_)
    (fun r hr t ht => .inl ⟨r, mem_run_of_isPlain hq a hr, ht, rfl⟩) (fun id t ht => ?_) ?_
  · rw [hdrawn] at ht
    simp at ht
  · rw [hwon] at hx
    simp at hx
  · rw [hsettled] at ht
    simp at ht
  · rintro id token targetId rfl
    simp [Stmt.isPlain] at hq

end Steps

section Calls

variable {i : ℕ} {α : Type}

/-- A program that keeps the fencing as call `i`, and ends with `Q`. -/
abbrev Fences (i : ℕ) (Q : α → World lang Store → Prop) (p : Prog lang α) (w : World lang Store) :
    Prop := (Shared.ofInv FencingInv).Safe machine (fun _ _ _ => True) i Q p w

/-- The call has claimed no row. -/
def Unclaimed (es : List (Event lang Store)) : Prop := ∀ e ∈ es, wonClaim e = none

/-- The call has drawn the token, and the target of every row it has claimed is `x`. -/
def Holds (token : Token) (x : TargetId) (es : List (Event lang Store)) : Prop :=
  (∃ e ∈ es, drawn e = some token) ∧ ∀ e ∈ es, ∀ y, wonClaim e = some (token, y) → y = x

lemma holds_cons {token : Token} {x : TargetId} {es : List (Event lang Store)} {e : Event lang Store}
    (h : Holds token x es) (he : wonClaim e = none) : Holds token x (e :: es) := by
  obtain ⟨⟨e', he', hdrawn⟩, htarget⟩ := h
  refine ⟨⟨e', List.mem_cons_of_mem _ he', hdrawn⟩, fun e'' he'' y hwon => ?_⟩
  rcases List.mem_cons.mp he'' with rfl | he''
  · rw [he] at hwon
    simp at hwon
  · exact htarget e'' he'' y hwon

/-- The rule of a program of plain statements. -/
lemma Fences.of_plain {p : Prog lang α} (hp : p.Issues fun q : Stmt => q.isPlain = true)
    {K : List (Event lang Store) → Prop} (hK : ∀ e es, wonClaim e = none → K es → K (e :: es))
    {w : World lang Store} (h : K (w.eventsOf i)) : Fences i (fun _ w => K (w.eventsOf i)) p w :=
  Shared.Safe.of_issues_own hp (fun _ _ hq a hes => hK _ _ (event_of_isPlain hq a).2.1 hes)
    (fun _ _ hq hI _ a => ⟨FencingInv.plain hI hq a, trivial⟩) h

lemma beforeAttempt_plain (intent : Row) (token : Token) :
    (beforeAttempt intent token).Issues fun q : Stmt => q.isPlain = true := by
  refine Prog.issues_ask_bind rfl fun current => ?_
  cases current with
  | none => trivial
  | some current =>
    refine Prog.issues_ask_bind rfl fun now => ?_
    split
    · trivial
    · split
      · trivial
      · split
        · trivial
        · split <;> trivial

lemma attempts_plain (T : Transport) (intent : Row) (token : Token) (targetUrl : Url)
    (retries : ℕ) : (attempts T intent token targetUrl retries).Issues fun q : Stmt => q.isPlain = true := by
  have hone : (attemptOnce T intent token targetUrl).Issues fun q : Stmt => q.isPlain = true := by
    refine Prog.Issues.bind (beforeAttempt_plain intent token) fun auth => ?_
    match auth with
    | .error failure => trivial
    | .ok (scheme, credential) =>
      dsimp only
      split
      · trivial
      · exact Prog.issues_ask_bind rfl fun _ => trivial
  induction retries with
  | zero => exact hone
  | succ retries ih =>
    refine Prog.Issues.bind hone fun result => ?_
    match result with
    | .ok () => trivial
    | .error failure =>
      dsimp only
      split
      · exact ih
      · trivial

lemma sendToExternalAgent_plain (T : Transport) (intent : Row) (token : Token) (payload : String) :
    (sendToExternalAgent T intent token payload).Issues fun q : Stmt => q.isPlain = true := by
  unfold sendToExternalAgent
  dsimp only
  split
  · trivial
  · split
    · trivial
    · exact attempts_plain T intent token _ 2

/-- Settling a failed attempt. -/
lemma settleFailure_fences {id : EgressId} {token : Token} {x : TargetId} {failure : Failure}
    {f : Unit → Prog lang α} {w : World lang Store} (h : Holds token x (w.eventsOf i))
    (hf : ∀ w, Fences i (fun _ _ => True) (f ()) w) :
    Fences i (fun _ _ => True) (await (.settleFailure id token failure) >>= f) w := by
  refine Shared.Safe.ask fun w' hown _ hI _ a => ⟨⟨?_, trivial⟩, fun _ _ => hf _⟩
  have hdrew : Drew w' i token := by
    unfold Drew
    rw [hown]
    exact h.1
  refine FencingInv.step hI (.settleFailure id token failure) a (Nat.le_refl _) (fun t ht => ?_) (fun t y hy => ?_)
    (fun r hr t ht => ?_) (fun id' t ht => ?_) (fun _ _ _ heq => ?_)
  · simp [drawn, World.event] at ht
  · simp [wonClaim, World.event] at hy
  · rcases Store.mem_updateEgress_cases hr with ⟨hold, -⟩ | ⟨r₀, -, -, rfl⟩
    · exact .inl ⟨r, hold, ht, rfl⟩
    · simp [Row.failedWith] at ht
  · obtain ⟨-, rfl⟩ := Prod.mk.inj (Option.some.inj ht)
    exact hdrew
  · simp at heq

/-- Settling a sent row. -/
lemma settleSent_fences {id : EgressId} {token : Token} {x : TargetId} {f : Unit → Prog lang α}
    {w : World lang Store} (h : Holds token x (w.eventsOf i))
    (hf : ∀ w, Fences i (fun _ _ => True) (f ()) w) :
    Fences i (fun _ _ => True) (await (.settleSent id token x) >>= f) w := by
  refine Shared.Safe.ask fun w' hown _ hI _ a => ⟨⟨?_, trivial⟩, fun _ _ => hf _⟩
  rw [← hown] at h
  have hdrew : Drew w' i token := h.1
  refine FencingInv.step hI (.settleSent id token x) a (Nat.le_refl _) (fun t ht => ?_) (fun t y hy => ?_)
    (fun r hr t ht => ?_) (fun id' t ht => ?_) (fun id' t y heq r hr ht => ?_)
  · simp [drawn, World.event] at ht
  · simp [wonClaim, World.event] at hy
  · rcases Store.mem_updateEgress_cases hr with ⟨hold, -⟩ | ⟨r₀, -, -, rfl⟩
    · exact .inl ⟨r, hold, ht, rfl⟩
    · simp [Row.settledSent] at ht
  · obtain ⟨-, rfl⟩ := Prod.mk.inj (Option.some.inj ht)
    exact hdrew
  · -- the row was claimed under this token, so by this call, whose claim saw the target
    obtain ⟨rfl, rfl, rfl⟩ := Stmt.settleSent.inj heq
    obtain ⟨e, he, hwon⟩ := hI.claimed r hr token ht
    have hcaller := FencingInv.eq_of_drew hI (hI.claim_drawn e he token _ hwon) hdrew
    exact h.2 e (List.mem_filter.mpr ⟨he, beq_iff_eq.mpr hcaller⟩) _ hwon

/-- The transport of a claimed row and its settlement. -/
lemma sendClaimed_fences (T : Transport) {intent : Row} {token : Token} {w : World lang Store}
    (h : Holds token intent.targetId (w.eventsOf i)) :
    Fences i (fun _ _ => True) (sendClaimed T intent token) w := by
  refine Shared.Safe.then (Q := fun _ w => Holds token intent.targetId (w.eventsOf i))
    (Fences.of_plain ?_ (fun e es he hes => holds_cons hes he) h) fun result w' h' => ?_
  · cases intent.payload with
    | none => trivial
    | some payload => exact sendToExternalAgent_plain T intent token payload
  · cases result with
    | error failure => exact settleFailure_fences h' fun _ => trivial
    | ok => exact settleSent_fences h' fun _ => trivial

/-- The claim of a row under a token of the call's own. -/
lemma claim_fences {id : EgressId} {token : Token} {w : World lang Store}
    (hdrew : ∃ e ∈ w.eventsOf i, drawn e = some token) (hclaimed : Unclaimed (w.eventsOf i))
    {f : Option Row → Prog lang α}
    (hf : ∀ intent w, (∀ r, intent = some r → Holds token r.targetId (w.eventsOf i)) →
      Fences i (fun _ _ => True) (f intent) w) :
    Fences i (fun _ _ => True) (await (.claim id token) >>= f) w := by
  refine Shared.Safe.ask fun w' hown _ hI _ now => ⟨⟨?_, trivial⟩, fun intent hintent => ?_⟩
  · have hdrew' : Drew w' i token := by
      unfold Drew
      rw [hown]
      exact hdrew
    refine FencingInv.step hI (.claim id token) now (Nat.le_refl _) (fun t ht => ?_) (fun t y hy => ?_)
      (fun r hr t ht => ?_) (fun id' t ht => ?_) (fun _ _ _ heq => ?_)
    · simp [drawn, World.event] at ht
    · obtain ⟨_, -, heq⟩ := Option.map_eq_some_iff.mp (hy :
        (w'.store.claim id token now).1.map (fun r => (token, r.targetId)) = some (t, y))
      obtain ⟨rfl, -⟩ := Prod.mk.inj heq
      exact hdrew'
    · rcases Store.mem_updateEgress_cases hr with ⟨hold, -⟩ | ⟨r₀, hr₀, hp, rfl⟩
      · exact .inl ⟨r, hold, ht, rfl⟩
      · have htoken : token = t := Option.some.inj ht
        subst htoken
        refine .inr ?_
        show (w'.store.claim id token now).1.map (fun r => (token, r.targetId)) = _
        rw [Store.claim_of_hit hr₀ hp]
        rfl
    · simp [settlement, World.event] at ht
    · simp at heq
  · refine hf intent _ fun r hr => ⟨?_, fun e he y hwon => ?_⟩
    · obtain ⟨e, he, hdrawn⟩ := hdrew
      rw [World.eventsOf_after_self, hown]
      exact ⟨e, List.mem_cons_of_mem _ he, hdrawn⟩
    · rw [World.eventsOf_after_self, hown] at he
      rcases List.mem_cons.mp he with rfl | he
      · have hreply : (w'.store.claim id token now).1 = some r := hintent.symm.trans hr
        have hwon' : (w'.store.claim id token now).1.map (fun r => (token, r.targetId)) =
            some (token, y) := hwon
        rw [hreply] at hwon'
        exact (Prod.mk.inj (Option.some.inj hwon')).2.symm
      · rw [hclaimed e he] at hwon
        simp at hwon

/-- Drawing a token, claiming and sending. -/
lemma claimAndSend_fences (T : Transport) (id : EgressId) {w : World lang Store}
    (hw : Unclaimed (w.eventsOf i)) : Fences i (fun _ _ => True) (claimAndSend T id) w := by
  refine Shared.Safe.ask fun w' hown _ hI _ a => ⟨⟨?_, trivial⟩, fun token htoken => ?_⟩
  · refine FencingInv.step hI .randomUuid a (Nat.le_succ _) (fun t ht => ?_) (fun t y hy => ?_)
      (fun r hr t ht => .inl ⟨r, hr, ht, rfl⟩) (fun id' t ht => ?_) (fun _ _ _ heq => ?_)
    · obtain rfl : w'.store.nextToken = t := Option.some.inj ht
      exact ⟨Nat.le_refl _, Nat.lt_succ_self _⟩
    · simp [wonClaim, World.event] at hy
    · simp [settlement, World.event] at ht
    · simp at heq
  · have hevents : (w'.after machine i .randomUuid a).eventsOf i =
        w'.event machine i .randomUuid a :: w.eventsOf i := by
      rw [World.eventsOf_after_self, hown]
    refine claim_fences ⟨w'.event machine i .randomUuid a, ?_, congrArg some htoken.symm⟩ ?_
      fun intent w₂ h₂ => ?_
    · rw [hevents]
      exact List.mem_cons_self
    · rw [hevents]
      intro e he
      rcases List.mem_cons.mp he with rfl | he
      · rfl
      · exact hw e he
    · cases intent with
      | none => trivial
      | some intent => exact sendClaimed_fences T (h₂ intent rfl)

/-- **`dispatchA2aEgress` keeps the fencing.** -/
lemma dispatchA2aEgress_fences (T : Transport) (id : EgressId) {w : World lang Store}
    (hw : w.eventsOf i = []) : Fences i (fun _ _ => True) (dispatchA2aEgress T id) w := by
  refine Shared.Safe.ask fun w' hown _ hI _ a =>
    ⟨⟨FencingInv.plain (q := .getEgress id) hI rfl a, trivial⟩, fun existing _ => ?_⟩
  have hunclaimed : Unclaimed ((w'.after machine i (.getEgress id) a).eventsOf i) := by
    rw [World.eventsOf_after_self, hown, hw]
    intro e he
    obtain rfl : e = _ := List.mem_singleton.mp he
    rfl
  cases existing with
  | none => trivial
  | some existing =>
    dsimp only
    cases existing.status with
    | failed => trivial
    | pending => exact claimAndSend_fences T id hunclaimed
    | sending => exact claimAndSend_fences T id hunclaimed
    | sent =>
      refine (Fences.of_plain (K := fun _ => True) ?_ (fun _ _ _ h => h) trivial).weaken
        fun _ _ _ => trivial
      refine Prog.issues_ask_bind rfl fun now => ?_
      split
      · trivial
      · exact Prog.issues_ask_bind rfl fun _ => trivial

end Calls

/-! ## Every run -/

/-- **The egress is fenced** in every run, and no step outside the calls credits a registration or
touches a settled row. -/
theorem egressFenced {T : Transport} {g : Config lang Store Call.Result}
    (h : (service T).Reachable (Regime.free lang Store Call) g) :
    EgressFenced g.world ∧ (∀ e ∈ g.world.trace, StepFenced e.before e.after) ∧
      ∀ d, StepFenced g.world.store (drift d g.world.store) := by
  have hI : FencingInv g.world := by
    refine (Shared.sound (H := Shared.ofInv FencingInv) (Q := fun _ _ _ _ => True)
      (fun s hs => ?_) (fun d w hw => ?_) (fun _ _ => trivial) (fun c _ i w hw _ => ?_) h).1
    · have hempty : ∀ r, ¬ r ∈ s.egress := fun r hr => by
        rw [Table.mem_def, (hs : s.egress.rows = [])] at hr
        simp at hr
      exact ⟨⟨fun r hr => absurd hr (hempty r), fun r hr => absurd hr (hempty r)⟩, by simp, by simp,
        by simp, fun r hr => absurd hr (hempty r), by simp, by simp, by simp⟩
    · refine ⟨wellFormed_drift hw.wellFormed d, fun e he t ht => ?_, hw.drawn_once, hw.claim_drawn,
        fun r hr t ht => ?_, hw.fenced, hw.spares, hw.steps⟩
      · have hnext : (drift d w.store).nextToken = w.store.nextToken := by cases d <;> rfl
        exact lt_of_lt_of_eq (hw.drawn_lt e he t ht) hnext.symm
      · refine hw.claimed r ?_ t ht
        cases d with
        | accept a =>
          rcases Table.mem_insertOrIgnore hr with hold | ⟨rfl, -⟩
          · exact hold
          · simp [Admission.row] at ht
        | retained | register | rotate | withdraw => exact hr
    · cases c with
      | dispatchA2aEgress id => exact dispatchA2aEgress_fences T id hw
      | cleanupA2aEgress limit =>
        exact (Fences.of_plain (K := fun _ => True) (Prog.issues_ask rfl) (fun _ _ _ h => h)
          trivial).weaken fun _ _ _ => trivial
      | expireA2aEgressForReuse id now =>
        refine (Fences.of_plain (K := fun _ => True) ?_ (fun _ _ _ h => h) trivial).weaken
          fun _ _ _ => trivial
        exact ⟨rfl, fun _ => trivial⟩
  refine ⟨⟨fun r hr t ht i j hi hj => hI.eq_of_drew hi hj, hI.fenced, hI.wellFormed.scrubbed,
    hI.spares⟩, hI.steps, fun d => stepFenced_drift _ d⟩

/-! ## The cleanup and a retry deadline -/

/-- A transport that refuses nothing. -/
def openTransport : Transport := ⟨fun _ => true, id, fun _ => true, fun _ => true⟩

/-- The outside world of a run in which clocks read `now` and no fetch gets through. -/
def offline (now : Millis) : (q : Stmt) → q.Answer
  | .dateNow | .claim .. | .settleFailure .. | .cleanup _ => now
  | .fetch .. => .unavailable
  | .getEgress _ | .getSource _ | .randomUuid | .recheck .. | .settleSent ..
  | .expireForReuse .. => ()

/-- The egress without a row, with one message and one registration. -/
def oneTarget : Store where
  egress := Table.empty
  targets := Table.empty.insertOrIgnore ⟨"t", "w", "a", "https://agent", none, none, 0⟩
  messages := [("m", "w")]
  agents := [("a", "w")]
  nextToken := 0

/-- A message is sent just before its retry window ends, without success; the cleanup comes before
the retry is due. -/
def lateRetry : List (service openTransport).Move :=
  .drift (.accept ⟨"e", "w", "m", "t", "https://agent", "payload", 0⟩) ::
    .start (.dispatchA2aEgress "e") :: List.replicate 13 (.exec 0 (offline 86399000)) ++
    [.start (.cleanupA2aEgress 20), .exec 1 (offline 86400000)]

/-- The fencing of that run. -/
theorem egressFenced_lateRetry :
    EgressFenced ((service openTransport).runFrom oneTarget lateRetry).world :=
  (egressFenced ((service openTransport).runFrom_reachable (s := oneTarget) rfl lateRetry)).1

/-- **A row that waits for its retry is deleted although its lease has not run out.** -/
theorem not_sparesLeased_lateRetry :
    ¬ ∀ g : Config lang Store Call.Result,
      (service openTransport).Reachable (Regime.free lang Store Call) g →
        ∀ e ∈ g.world.trace, ∀ now, cleansAt e = some now → ∀ r ∈ e.before.egress,
          r.leased now = true → r ∈ e.after.egress := by
  intro h
  have hreachable := (service openTransport).runFrom_reachable (s := oneTarget) rfl lateRetry
  have hcleanup : (((service openTransport).runFrom oneTarget lateRetry).world.trace.head?.map
      fun e => (cleansAt e, e.before.egress.rows.map fun r => r.leased 86400000,
        e.after.egress.rows.length)) = some (some 86400000, [true], 0) := by decide +kernel
  obtain ⟨e, hhead, heq⟩ := Option.map_eq_some_iff.mp hcleanup
  obtain ⟨hcleans, hrest⟩ := Prod.mk.inj heq
  obtain ⟨hleased, hafter⟩ := Prod.mk.inj hrest
  obtain ⟨r, hr, hr'⟩ : ∃ r ∈ e.before.egress.rows, r.leased 86400000 = true :=
    List.mem_map.mp (hleased ▸ List.mem_singleton_self true)
  have hkept := h _ hreachable e (List.mem_of_mem_head? hhead) 86400000 hcleans r hr hr'
  rw [Table.mem_def, List.eq_nil_of_length_eq_zero hafter] at hkept
  simp at hkept

end A2a
