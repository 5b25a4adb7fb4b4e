import Relaycast.Inbound.Service
import Relaycast.Interleaving.Later

/-!
# What is left of an admission

A row of an identity is written by the batch that admits its message, or by the promotion of a
legacy acceptance; both are refused where there is one.  It stays for its day: pruning the message
only empties it.  So within the day there is at most one such write, and whoever finds the row
finds what that write has put there, unless the message was pruned since.
-/

namespace Inbound

open Relational Interleaving

variable {id : InboundId}

/-! ## What was executed -/

/-- The row an executed statement has put under an identity. -/
def created : Event lang Store → Option InboundRow
  | ⟨_, .persist batch, (answer : Fate × Bool), _, before, _⟩ =>
    if answer.1.reaches && (batch.refusal before).isNone then
      batch.inboundRow (toSeconds before.clock)
    else none
  | ⟨_, .promote promotion, (fate : Fate), _, before, _⟩ =>
    if fate.reaches && promotion.isAuthenticated before &&
        !before.inbound.conflicts (promotion.inboundRow before) then
      some (promotion.inboundRow before)
    else none
  | _ => none

/-- The admissions of an identity. -/
def admissions (id : InboundId) (trace : List (Event lang Store)) : List (Event lang Store) :=
  trace.filter fun e => (created e).any (·.id == id)

/-- The message of the identity was pruned. -/
def Pruned (id : InboundId) (s : Store) : Prop :=
  ∃ r ∈ s.inbound, r.id = id ∧ (r.messageId = none ∨ r.response = none)

lemma mem_admissions {trace : List (Event lang Store)} {e : Event lang Store} :
    e ∈ admissions id trace ↔ e ∈ trace ∧ ∃ row, created e = some row ∧ row.id = id := by
  simp [admissions, Option.any_eq_true]

lemma admissions_subset {trace trace' : List (Event lang Store)} (h : trace ⊆ trace') :
    admissions id trace ⊆ admissions id trace' := by
  intro e he
  obtain ⟨hmem, hrow⟩ := mem_admissions.mp he
  exact mem_admissions.mpr ⟨h hmem, hrow⟩

/-! ## What a statement leaves of the rows -/

/-- The row is as it was, or emptied. -/
def InboundRow.Remains (r r' : InboundRow) : Prop := r' = r ∨ r' = r.scrub

lemma InboundRow.Remains.id_eq {r r' : InboundRow} (h : r.Remains r') : r'.id = r.id := by
  rcases h with rfl | rfl <;> rfl

lemma InboundRow.Remains.expiresAt_eq {r r' : InboundRow} (h : r.Remains r') :
    r'.expiresAt = r.expiresAt := by
  rcases h with rfl | rfl <;> rfl

lemma InboundRow.Remains.trans {r r' r'' : InboundRow} (h : r.Remains r') (h' : r'.Remains r'') :
    r.Remains r'' := by
  rcases h with rfl | rfl
  · exact h'
  · rcases h' with rfl | rfl <;> exact .inr rfl

/-- Whatever is left of the rows, and that those of the identity are. -/
structure KeepsRows (id : InboundId) (s s' : Store) : Prop where
  from_old : ∀ r' ∈ s'.inbound, ∃ r ∈ s.inbound, r.Remains r'
  kept : ∀ r ∈ s.inbound, r.id = id → ∃ r' ∈ s'.inbound, r.Remains r'

lemma KeepsRows.refl (id : InboundId) (s : Store) : KeepsRows id s s where
  from_old r hr := ⟨r, hr, .inl rfl⟩
  kept r hr _ := ⟨r, hr, .inl rfl⟩

/-- A statement that leaves the identities alone. -/
lemma KeepsRows.of_eq {s s' : Store} (h : s'.inbound = s.inbound) : KeepsRows id s s' where
  from_old r hr := ⟨r, h ▸ hr, .inl rfl⟩
  kept r hr _ := ⟨r, h.symm ▸ hr, .inl rfl⟩

lemma pruneMessages_keepsRows (s : Store) (ids : List MessageId) :
    KeepsRows id s (s.pruneMessages ids) where
  from_old r' hr' := by
    rcases @Table.mem_update_cases _ _ _ _ InboundRow.scrub (fun _ => rfl) _ hr' with
      ⟨hr, -⟩ | ⟨r, hr, -, rfl⟩
    · exact ⟨r', hr, .inl rfl⟩
    · exact ⟨r, hr, .inr rfl⟩
  kept r hr _ := by
    refine ⟨_, (@Table.mem_update _ _ _ _ InboundRow.scrub (fun _ => rfl) _).mpr ⟨r, hr, rfl⟩, ?_⟩
    by_cases hof : r.isOfAny ids = true
    · rw [if_pos hof]
      exact .inr rfl
    · rw [if_neg hof]
      exact .inl rfl

/-- Deleting expired rows leaves those that are not. -/
lemma deleteWhere_keepsRows {s : Store} {p : InboundRow → Bool}
    (h : ∀ r ∈ s.inbound, r.id = id → p r = false) :
    KeepsRows id s { s with inbound := s.inbound.deleteWhere p } where
  from_old r hr := ⟨r, (Table.mem_deleteWhere.mp hr).1, .inl rfl⟩
  kept r hr hid := ⟨r, Table.mem_deleteWhere.mpr ⟨hr, h r hr hid⟩, .inl rfl⟩

lemma commit_keepsRows {fate : Fate} {s s' : Store} (h : KeepsRows id s s') :
    KeepsRows id s (commit fate s s').2 := by
  cases fate with
  | commits | loses cause => exact h
  | fails cause => exact .refl id s

/-- What a write that may be refused leaves. -/
lemma attempt_store (fate : Fate) (refusal : Option Failure) (s s' : Store) :
    (attempt fate refusal s s').2 = if fate.reaches && refusal.isNone then s' else s := by
  cases fate <;> cases refusal <;> rfl

lemma promote_store (p : Promotion) (fate : Fate) (s : Store) :
    (run (.promote p) fate s).2 =
      if fate.reaches && p.isAuthenticated s then p.apply s else s := by
  show (attempt fate (if p.isAuthenticated s then none else some .registrationChanged) s
    (p.apply s)).2 = _
  rw [attempt_store]
  cases p.isAuthenticated s <;> rfl

lemma persist_store (batch : Batch) (a : Fate × Bool) (s : Store) :
    (run (.persist batch) a s).2 =
      if a.1.reaches && (batch.refusal s).isNone then batch.apply a.2 s else s :=
  attempt_store _ _ _ _

/-! ## The day -/

/-- No row of the identity is over. -/
def Unexpired (id : InboundId) (s : Store) : Prop :=
  ∀ r ∈ s.inbound, r.id = id → s.clock < r.expiresAt

/-- What the calls keep to: a delete of expired rows goes by a clock that was read before, and the
response of a batch is that of its message. -/
def Allowed (s : Store) : Stmt → Prop
  | .deleteInbound _ now | .sweepInbound now => now ≤ s.clock
  | .persist batch => batch.response.id = batch.message.id
  | _ => True

/-- Where nothing refuses a batch, no row stands against its own. -/
lemma Batch.free_of_refusal {batch : Batch} {s : Store} (h : batch.refusal s = none)
    {row : InboundRow} (hrow : batch.inboundRow (toSeconds s.clock) = some row) :
    s.inbound.conflicts row = false := by
  unfold Batch.refusal at h
  split_ifs at h with _ hconflicts
  simp only [Batch.conflicts, hrow, Option.any_some, Bool.or_eq_true, not_or,
    Bool.not_eq_true] at hconflicts
  exact hconflicts.2

section Step

variable {w : World lang Store} {i : ℕ}

/-- The statements that put rows under an identity. -/
def Stmt.writesRow : Stmt → Bool
  | .persist _ | .promote _ => true
  | _ => false

lemma run_keepsRows {q : Stmt} (hq : q.writesRow = false) {s : Store} (hallowed : Allowed s q)
    (hday : Unexpired id s) (a : q.Answer) : KeepsRows id s (run q a s).2 := by
  cases q with
  | persist batch | promote promotion => simp [Stmt.writesRow] at hq
  | pruneMessages ids => exact pruneMessages_keepsRows s ids
  | deleteInbound id' now =>
    refine commit_keepsRows (deleteWhere_keepsRows fun r hr hid => ?_)
    have hnow : now ≤ s.clock := hallowed
    simp [hnow.trans_lt (hday r hr hid)]
  | sweepInbound now =>
    refine deleteWhere_keepsRows fun r hr hid => ?_
    have hnow : now ≤ s.clock := hallowed
    simp [hnow.trans_lt (hday r hr hid)]
  | kvPut key value => exact commit_keepsRows (.of_eq rfl)
  | kvDelete key => exact commit_keepsRows (.of_eq rfl)
  | _ => exact .of_eq rfl

/-- A statement puts a row that nothing stands against, or leaves the rows as they are. -/
lemma created_cases (hallowed : Allowed w.store q) (hday : Unexpired id w.store) (a : Stmt.Answer q) :
    (created (w.event machine i q a) = none ∧
      KeepsRows id w.store (w.after machine i q a).store) ∨
    ∃ row, created (w.event machine i q a) = some row ∧
      w.store.inbound.conflicts row = false ∧
      (w.after machine i q a).store.inbound = w.store.inbound.insertOrIgnore row := by
  cases hq : q.writesRow with
  | false =>
    refine .inl ⟨?_, run_keepsRows hq hallowed hday a⟩
    cases q with
    | persist batch | promote promotion => simp [Stmt.writesRow] at hq
    | _ => rfl
  | true =>
    cases q with
    | persist batch =>
      change Fate × Bool at a
      have hstore : (w.after machine i (.persist batch) a).store =
          if a.1.reaches && (batch.refusal w.store).isNone then batch.apply a.2 w.store
          else w.store := persist_store batch a w.store
      have hcreated : created (w.event machine i (.persist batch) a) =
          if a.1.reaches && (batch.refusal w.store).isNone then
            batch.inboundRow (toSeconds w.store.clock) else none := rfl
      rw [hstore, hcreated]
      by_cases happlied : (a.1.reaches && (batch.refusal w.store).isNone) = true
      · rw [if_pos happlied, if_pos happlied]
        cases hrow : batch.inboundRow (toSeconds w.store.clock) with
        | none =>
          refine .inl ⟨rfl, .of_eq ?_⟩
          show (batch.inboundRow _).elim w.store.inbound w.store.inbound.insertOrIgnore = _
          rw [hrow]
          rfl
        | some row =>
          refine .inr ⟨row, rfl, ?_, ?_⟩
          · rw [Bool.and_eq_true, Option.isNone_iff_eq_none] at happlied
            exact Batch.free_of_refusal happlied.2 hrow
          · show (batch.inboundRow _).elim w.store.inbound w.store.inbound.insertOrIgnore = _
            rw [hrow]
            rfl
      · rw [if_neg happlied, if_neg happlied]
        exact .inl ⟨rfl, .refl id w.store⟩
    | promote promotion =>
      change Fate at a
      have hstore : (w.after machine i (.promote promotion) a).store =
          if a.reaches && promotion.isAuthenticated w.store then promotion.apply w.store
          else w.store := promote_store promotion a w.store
      have hcreated : created (w.event machine i (.promote promotion) a) =
          if a.reaches && promotion.isAuthenticated w.store &&
              !w.store.inbound.conflicts (promotion.inboundRow w.store) then
            some (promotion.inboundRow w.store) else none := rfl
      rw [hstore, hcreated]
      by_cases happlied : (a.reaches && promotion.isAuthenticated w.store) = true
      · rw [if_pos happlied]
        cases hconflicts : w.store.inbound.conflicts (promotion.inboundRow w.store) with
        | false => exact .inr ⟨_, by simp [happlied], hconflicts, rfl⟩
        | true =>
          refine .inl ⟨by simp, .of_eq ?_⟩
          simp [Promotion.apply, Table.insertOrIgnore, hconflicts]
      · rw [if_neg happlied]
        exact .inl ⟨by simp [happlied], .refl id w.store⟩
    | _ => simp [Stmt.writesRow] at hq

/-- The response an admission stores is that of its message. -/
lemma created_answers (hallowed : Allowed w.store q) (a : Stmt.Answer q) {row : InboundRow}
    (hrow : created (w.event machine i q a) = some row) (m : MessageId) (response : Accepted)
    (hm : row.messageId = some m) (hresponse : row.response = some response) :
    m = response.id := by
  cases q with
  | persist batch =>
    change (if _ then batch.inboundRow (toSeconds w.store.clock) else none) = some row at hrow
    split_ifs at hrow
    obtain ⟨id', -, rfl⟩ := Option.map_eq_some_iff.mp hrow
    obtain rfl := Option.some.inj hm
    obtain rfl := Option.some.inj hresponse
    exact Eq.symm hallowed
  | promote promotion =>
    change (if _ then some (promotion.inboundRow w.store) else none) = some row at hrow
    split_ifs at hrow
    obtain rfl := Option.some.inj hrow
    have hsource : promotion.source? w.store = some m := hm
    simp only [Promotion.inboundRow, hsource, Option.map_some, Option.some.injEq] at hresponse
    subst hresponse
    unfold Promotion.source? at hsource
    split_ifs at hsource
    exact (Option.some.inj hsource).symm
  | _ => cases hrow

end Step

/-! ## The invariant -/

/-- What holds of an identity in every world. -/
structure IdInv (id : InboundId) (w : World lang Store) : Prop where
  once : (admissions id w.trace).length ≤ 1
  /-- A row is what is left of an admission. -/
  bound : ∀ r ∈ w.store.inbound, r.id = id → ∃ e ∈ admissions id w.trace, ∃ row,
    created e = some row ∧ row.Remains r
  /-- An admission has left its row. -/
  kept : ∀ e ∈ admissions id w.trace, ∃ r ∈ w.store.inbound, r.id = id
  /-- The response of an admission is that of its message. -/
  answers : ∀ e ∈ admissions id w.trace, ∀ row, created e = some row → ∀ m response,
    row.messageId = some m → row.response = some response → m = response.id

/-- Every allowed statement keeps the invariant within the day. -/
lemma idInv_after {w : World lang Store} {i : ℕ} {q : Stmt} (h : IdInv id w)
    (hallowed : Allowed w.store q) (hday : Unexpired id w.store) (a : q.Answer) :
    IdInv id (w.after machine i q a) := by
  rcases created_cases (i := i) hallowed hday a with ⟨hnone, hrows⟩ | ⟨row, hrow, hfree, hinbound⟩
  · have hsame : admissions id (w.after machine i q a).trace = admissions id w.trace := by
      show admissions id (w.event machine i q a :: w.trace) = _
      simp [admissions, hnone]
    constructor
    case once =>
      rw [hsame]
      exact h.once
    case bound =>
      rw [hsame]
      intro r' hr' hid
      obtain ⟨r, hr, hremains⟩ := hrows.from_old r' hr'
      obtain ⟨e, he, row, hrow, hrowr⟩ := h.bound r hr (hremains.id_eq ▸ hid)
      exact ⟨e, he, row, hrow, hrowr.trans hremains⟩
    case kept =>
      rw [hsame]
      intro e he
      obtain ⟨r, hr, hid⟩ := h.kept e he
      obtain ⟨r', hr', hremains⟩ := hrows.kept r hr hid
      exact ⟨r', hr', hremains.id_eq.trans hid⟩
    case answers =>
      rw [hsame]
      exact h.answers
  · have hold : ∀ r ∈ w.store.inbound, r.id ≠ row.id := by
      intro r hr hid
      have hclash := List.any_eq_false.mp hfree r hr
      simp [clash, key, hid] at hclash
    by_cases hid : row.id = id
    · -- The first row of the identity.
      have hempty : admissions id w.trace = [] := by
        refine List.eq_nil_iff_forall_not_mem.mpr fun e he => ?_
        obtain ⟨r, hr, hrid⟩ := h.kept e he
        exact hold r hr (hrid.trans hid.symm)
      have hsingle : admissions id (w.after machine i q a).trace = [w.event machine i q a] := by
        show admissions id (w.event machine i q a :: w.trace) = _
        rw [admissions, List.filter_cons_of_pos (by simp [hrow, hid])]
        exact congrArg (_ :: ·) hempty
      constructor
      case once =>
        rw [hsingle]
        exact le_rfl
      case bound =>
        rw [hsingle, hinbound]
        intro r hr hrid
        rcases Table.mem_insertOrIgnore hr with hr | ⟨rfl, -⟩
        · exact absurd (hrid.trans hid.symm) (hold r hr)
        · exact ⟨_, List.mem_singleton_self _, r, hrow, .inl rfl⟩
      case kept =>
        rw [hinbound]
        exact fun _ _ => ⟨row, Table.mem_insertOrIgnore_self hfree, hid⟩
      case answers =>
        rw [hsingle]
        intro e he row' hrow'
        obtain rfl := List.mem_singleton.mp he
        exact created_answers hallowed a hrow'
    · have hsame : admissions id (w.after machine i q a).trace = admissions id w.trace := by
        show admissions id (w.event machine i q a :: w.trace) = _
        simp [admissions, hrow, hid]
      constructor
      case once =>
        rw [hsame]
        exact h.once
      case bound =>
        rw [hsame, hinbound]
        intro r hr hrid
        rcases Table.mem_insertOrIgnore hr with hr | ⟨rfl, -⟩
        · exact h.bound r hr hrid
        · exact absurd hrid hid
      case kept =>
        rw [hsame, hinbound]
        intro e he
        obtain ⟨r, hr, hrid⟩ := h.kept e he
        exact ⟨r, Table.mem_insertOrIgnore_of_mem hr, hrid⟩
      case answers =>
        rw [hsame]
        exact h.answers

/-- What passes leaves the identities alone. -/
lemma drift_inbound (d : machine.Drift) (s : Store) : (machine.drift d s).inbound = s.inbound := by
  cases d <;> rfl

lemma idInv_drift {w : World lang Store} (h : IdInv id w) (d : machine.Drift) :
    IdInv id (w.drift machine d) where
  once := h.once
  bound := by
    rw [World.drift_store, drift_inbound]
    exact h.bound
  kept := by
    rw [World.drift_store, drift_inbound]
    exact h.kept
  answers := h.answers

/-- What is never taken back: the clock, and that the message was pruned. -/
structure Passed (id : InboundId) (s s' : Store) : Prop where
  clock : s.clock ≤ s'.clock
  pruned : Pruned id s → Pruned id s'

lemma Passed.refl (id : InboundId) (s : Store) : Passed id s s := ⟨le_rfl, fun h => h⟩

lemma Passed.trans (s₁ s₂ s₃ : Store) (h : Passed id s₁ s₂) (h' : Passed id s₂ s₃) :
    Passed id s₁ s₃ := ⟨h.clock.trans h'.clock, fun hs => h'.pruned (h.pruned hs)⟩

lemma KeepsRows.pruned {s s' : Store} (h : KeepsRows id s s') (hs : Pruned id s) :
    Pruned id s' := by
  obtain ⟨r, hr, hid, hnone⟩ := hs
  obtain ⟨r', hr', hremains⟩ := h.kept r hr hid
  refine ⟨r', hr', hremains.id_eq.trans hid, ?_⟩
  rcases hremains with rfl | rfl
  · exact hnone
  · exact .inl rfl

/-- No statement moves the clock. -/
lemma run_clock (q : Stmt) (a : q.Answer) (s : Store) : (run q a s).2.clock = s.clock := by
  have hcommit : ∀ (fate : Fate) (s' : Store), s'.clock = s.clock →
      (commit fate s s').2.clock = s.clock := by
    intro fate s' hs'
    cases fate with
    | commits | loses cause => exact hs'
    | fails cause => rfl
  have hattempt : ∀ (fate : Fate) (refusal : Option Failure) (s' : Store), s'.clock = s.clock →
      (attempt fate refusal s s').2.clock = s.clock := by
    intro fate refusal s' hs'
    rw [attempt_store]
    split
    · exact hs'
    · rfl
  cases q with
  | kvPut | kvDelete | deleteInbound => exact hcommit a _ rfl
  | persist batch => exact hattempt a.1 _ _ rfl
  | promote promotion => exact hattempt a _ _ rfl
  | _ => rfl

lemma passed_after {w : World lang Store} {i : ℕ} {q : Stmt} (hallowed : Allowed w.store q)
    (hday : Unexpired id w.store) (a : q.Answer) :
    Passed id w.store (w.after machine i q a).store := by
  refine ⟨(run_clock q a w.store).ge, fun hs => ?_⟩
  rcases created_cases (i := i) hallowed hday a with ⟨-, hrows⟩ | ⟨row, -, -, hinbound⟩
  · exact hrows.pruned hs
  · obtain ⟨r, hr, hrest⟩ := hs
    exact ⟨r, hinbound ▸ Table.mem_insertOrIgnore_of_mem hr, hrest⟩

lemma passed_drift (d : machine.Drift) (s : Store) : Passed id s (machine.drift d s) where
  clock := by
    cases d with
    | tick elapsed => exact Nat.le_add_right s.clock elapsed
    | expireKv key => exact le_rfl
  pruned := by
    rintro ⟨r, hr, hrest⟩
    exact ⟨r, (drift_inbound d s).symm ▸ hr, hrest⟩

end Inbound
