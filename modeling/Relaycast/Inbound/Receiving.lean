import Relaycast.Inbound.Admission

/-!
# What a receive returns

A receive returns the response of the admission of its identity: its own, or the one whose row it
has found.  It has then seen the identity unpruned, and its payload is the one that was admitted.
The key-value store has no part in this: whatever it holds, what is returned comes from the rows.
-/

namespace Inbound

open Relational Interleaving

variable {C : Crypto} {id : InboundId}

/-! ## What one call knows -/

/-- The runs within the day of an identity. -/
def withinDay (id : InboundId) : Regime lang Store Call where
  calls _ := True
  permits w _ _ := Unexpired id w.store
  crashes := True

/-- What the calls share. -/
def shared (id : InboundId) : Shared lang Store where
  inv := IdInv id
  grows := LaterOn (Passed id)
  refl := .refl (.refl id)
  trans _ _ _ := LaterOn.trans Passed.trans

/-- Call `i` is safe to run with what is left of it from `w`, and returns with `Q`. -/
abbrev InSafe (id : InboundId) (i : ℕ) {α : Type} (Q : α → World lang Store → Prop)
    (p : Prog lang α) (w : World lang Store) : Prop :=
  (shared id).Safe machine (withinDay id).permits i Q p w

section Calls

variable {w : World lang Store} {i : ℕ} {α β : Type}

/-- Call `i` has moved on from `w` to `w'`. -/
structure Moved (id : InboundId) (i : ℕ) (w w' : World lang Store) : Prop where
  own : w.eventsOf i ⊆ w'.eventsOf i
  later : LaterOn (Passed id) w w'

lemma Moved.refl (w : World lang Store) : Moved id i w w :=
  ⟨List.Subset.refl _, .refl (.refl id) w⟩

lemma Moved.trans {w₁ w₂ w₃ : World lang Store} (h : Moved id i w₁ w₂) (h' : Moved id i w₂ w₃) :
    Moved id i w₁ w₃ :=
  ⟨List.Subset.trans h.own h'.own, h.later.trans Passed.trans h'.later⟩

lemma Moved.clock {w' : World lang Store} (h : Moved id i w w') :
    w.store.clock ≤ w'.store.clock := h.later.kept.clock

/-- The rule of a statement. -/
lemma InSafe.ask {q : Stmt} {f : Except Failure q.Value → Prog lang α}
    {Q : α → World lang Store → Prop} (hq : ∀ w', Moved id i w w' → Allowed w'.store q)
    (h : ∀ w', Moved id i w w' → IdInv id w' → Unexpired id w'.store → ∀ a : q.Answer,
      IdInv id (w'.after machine i q a) → Moved id i w' (w'.after machine i q a) →
        InSafe id i Q (f (run q a w'.store).1) (w'.after machine i q a)) :
    InSafe id i Q (Prog.ask (L := lang) q >>= f) w := by
  refine Shared.Safe.ask fun w' hown hgrows hinv hday a => ?_
  have hmoved : Moved id i w w' := ⟨hown ▸ List.Subset.refl _, hgrows⟩
  have hafter := idInv_after (i := i) hinv (hq w' hmoved) hday a
  have hlater : LaterOn (Passed id) w' (w'.after machine i q a) :=
    LaterOn.after (.refl id) (passed_after (i := i) (hq w' hmoved) hday a)
  refine ⟨⟨hafter, hlater⟩, fun r hr => ?_⟩
  subst hr
  refine h w' hmoved hinv hday a hafter ⟨?_, hlater⟩
  rw [World.eventsOf_after_self]
  exact List.subset_cons_self _ _

/-- The rule of a statement whose failure is thrown. -/
lemma InSafe.query {q : Stmt} {f : q.Value → Program α}
    {Q : Except Failure α → World lang Store → Prop}
    (hq : ∀ w', Moved id i w w' → Allowed w'.store q)
    (h : ∀ w', Moved id i w w' → IdInv id w' → Unexpired id w'.store → ∀ a : q.Answer,
      IdInv id (w'.after machine i q a) → Moved id i w' (w'.after machine i q a) →
        InSafe id i Q
          (match (run q a w'.store).1 with
            | .ok value => (f value).run
            | .error e => .done (.error e)) (w'.after machine i q a)) :
    InSafe id i Q (query q >>= f).run w := by
  refine InSafe.ask hq fun w' hmoved hinv hday a hafter hnext => ?_
  have hrest := h w' hmoved hinv hday a hafter hnext
  generalize (run q a w'.store).1 = reply at hrest ⊢
  cases reply with
  | ok value => exact hrest
  | error e => exact hrest

/-- The rule of a statement whose failure is caught. -/
lemma InSafe.attempt {q : Stmt} {f : Except Failure q.Value → Program α}
    {Q : Except Failure α → World lang Store → Prop}
    (hq : ∀ w', Moved id i w w' → Allowed w'.store q)
    (h : ∀ w', Moved id i w w' → IdInv id w' → Unexpired id w'.store → ∀ a : q.Answer,
      IdInv id (w'.after machine i q a) → Moved id i w' (w'.after machine i q a) →
        InSafe id i Q (f (run q a w'.store).1).run (w'.after machine i q a)) :
    InSafe id i Q (Throwing.lift (Prog.ask (L := lang) q) >>= f).run w := by
  rw [Throwing.run_lift_bind]
  exact InSafe.ask hq h

/-- The rule of a call that is one statement. -/
lemma InSafe.only {q : Stmt} (hq : ∀ w', Moved id i w w' → Allowed w'.store q) :
    InSafe id i (fun _ _ => True) (Inbound.query q).run w := by
  rw [← bind_pure (Inbound.query q)]
  refine InSafe.query hq fun w' _ _ _ a _ _ => ?_
  cases (run q a w'.store).1 <;> trivial

/-- No statement replies that a send is unfinished. -/
lemma run_ne_unfinished (q : Stmt) (a : q.Answer) (s : Store) :
    (run q a s).1 ≠ .error .unfinished := by
  have hread : ∀ {γ : Type} (fault : Option StorageError) (value : γ),
      read fault value ≠ .error .unfinished := by
    intro γ fault value
    cases fault <;> nofun
  have hcommit : ∀ (fate : Fate) (s' : Store), (commit fate s s').1 ≠ .error .unfinished := by
    intro fate s'
    cases fate <;> nofun
  cases q with
  | parallel | now | generateId | sweepInbound | pruneMessages | rotateToken | addPeer
  | removePeer => nofun
  | kvGet key =>
    change Option StorageError at a
    cases a <;> nofun
  | kvPut | kvDelete | deleteInbound => exact hcommit a _
  | inbound | resolveWorkspaceDeliveryPolicy | recipient | sender | outcomes | source =>
    exact hread a _
  | resolveConversation => exact hread _ _
  | persist batch =>
    change Fate × Bool at a
    show (attempt a.1 (batch.refusal s) s _).1 ≠ _
    unfold Batch.refusal
    rcases a with ⟨fate, takes⟩
    split_ifs <;> cases fate <;> nofun
  | promote promotion =>
    change Fate at a
    show (attempt a (if promotion.isAuthenticated s then none else some .registrationChanged) s
      _).1 ≠ _
    split_ifs <;> cases a <;> nofun

/-- The rule of a statement of which only the value is used, where every failure will do but that
of a send which is unfinished. -/
lemma InSafe.value {q : Stmt} {f : q.Value → Program α}
    {Q : Except Failure α → World lang Store → Prop} (hq : ∀ s, Allowed s q)
    (herror : ∀ e w', e ≠ .unfinished → Q (.error e) w')
    (h : ∀ value w', Moved id i w w' → InSafe id i Q (f value).run w') :
    InSafe id i Q (Inbound.query q >>= f).run w := by
  refine InSafe.query (fun w' _ => hq w'.store) fun w' hmoved _ _ a _ hnext => ?_
  have hne := run_ne_unfinished q a w'.store
  generalize (run q a w'.store).1 = reply at hne ⊢
  cases reply with
  | ok value => exact h value _ (hmoved.trans hnext)
  | error e => exact herror e _ fun he => hne (he ▸ rfl)

/-! ## What is returned -/

/-- The request is one of the identity. -/
def Request.IsOf (C : Crypto) (id : InboundId) (r : Request) : Prop :=
  ∃ k, r.identity = some k ∧ k.inboundId C = id

/-- What a receive returns: the response of the admission, which it has seen unpruned. -/
structure Returns (C : Crypto) (id : InboundId) (r : Request) (i : ℕ) (sent : Sent)
    (w : World lang Store) : Prop where
  admission : ∃ e ∈ admissions id w.trace, ∃ row, created e = some row ∧
    row.messageId = some sent.accepted.id ∧ row.response = some sent.accepted ∧
      row.fingerprint = r.payload.inboundFingerprint C
  live : ∃ e ∈ w.eventsOf i, ¬Pruned id e.before

lemma Returns.moved {r : Request} {sent : Sent} {w' : World lang Store}
    (h : Returns C id r i sent w) (hmoved : Moved id i w w') : Returns C id r i sent w' := by
  obtain ⟨⟨e, he, hrow⟩, e', he', hlive⟩ := h
  exact ⟨⟨e, admissions_subset hmoved.later.trace_subset he, hrow⟩, e', hmoved.own he', hlive⟩

/-- What a receive of the identity comes to; that its send is unfinished only where `unf`. -/
def Delivers (C : Crypto) (id : InboundId) (r : Request) (unf : Prop) (i : ℕ)
    (outcome : Except Failure Sent) (w : World lang Store) : Prop :=
  r.IsOf C id →
    match outcome with
    | .ok sent => Returns C id r i sent w
    | .error e => e = .unfinished → unf

lemma Delivers.moved {r : Request} {unf : Prop} {outcome : Except Failure Sent}
    {w' : World lang Store} (h : Delivers C id r unf i outcome w) (hmoved : Moved id i w w') :
    Delivers C id r unf i outcome w' := by
  intro hid
  have hhere := h hid
  cases outcome with
  | ok sent => exact Returns.moved hhere hmoved
  | error e => exact hhere

lemma delivers_error {r : Request} {unf : Prop} {e : Failure} (he : e ≠ .unfinished) :
    Delivers C id r unf i (.error e) w := fun _ heq => absurd heq he

/-- What a row that was read says of the request, once it is replayed. -/
def Found (C : Crypto) (id : InboundId) (r : Request) (i : ℕ) (row : InboundRow)
    (w : World lang Store) : Prop :=
  ∀ sent, replayRetained C r row = .ok sent → Returns C id r i sent w

lemma replayRetained_ok {r : Request} {row : InboundRow} {sent : Sent}
    (h : replayRetained C r row = .ok sent) :
    row.fingerprint = r.payload.inboundFingerprint C ∧
      (∃ m, row.messageId = some m) ∧ row.response = some sent.accepted := by
  unfold replayRetained at h
  split_ifs at h with hfingerprint
  cases hmessage : row.messageId with
  | none => simp [hmessage] at h
  | some m =>
    cases hresponse : row.response with
    | none => simp [hmessage, hresponse] at h
    | some response =>
      simp only [hmessage, hresponse, Except.ok.injEq] at h
      subst h
      exact ⟨not_not.mp hfingerprint, ⟨m, rfl⟩, rfl⟩

/-- A promoted row says what it says to a replay, or refuses. -/
lemma replayRetained_of_promoted {r : Request} {row : InboundRow} {now : Millis} {sent : Sent}
    (h : replayPromoted C r row now = .ok sent) : replayRetained C r row = .ok sent := by
  unfold replayPromoted at h
  unfold replayRetained
  split_ifs at h with hfingerprint hexpired
  · split at h <;> cases h
  · rw [if_neg hfingerprint]
    exact h

lemma replayRetained_ne {r : Request} {row : InboundRow} :
    replayRetained C r row ≠ .error .unfinished := by
  unfold replayRetained
  split_ifs
  · nofun
  · split <;> nofun

lemma replayPromoted_ne {r : Request} {row : InboundRow} {now : Millis} :
    replayPromoted C r row now ≠ .error .unfinished := by
  unfold replayPromoted
  split_ifs
  · nofun
  · split <;> nofun
  · split <;> nofun

/-- A row of the identity that is read and replayed is that of its admission. -/
lemma found_of_read (hinv : IdInv id w) {r : Request} {row : InboundRow}
    (hrow : row ∈ w.store.inbound) (hid : row.id = id) (q : Stmt) (a : q.Answer)
    (hmoved : Moved id i w (w.after machine i q a)) :
    Found C id r i row (w.after machine i q a) := by
  intro sent hsent
  obtain ⟨hfingerprint, ⟨m, hm⟩, hresponse⟩ := replayRetained_ok hsent
  obtain ⟨e, he, row₀, hcreated, hremains⟩ := hinv.bound row hrow hid
  obtain rfl : row = row₀ := by
    rcases hremains with rfl | rfl
    · rfl
    · cases hm
  obtain rfl := hinv.answers e he row hcreated m _ hm hresponse
  refine ⟨⟨e, admissions_subset hmoved.later.trace_subset he, row, hcreated, hm, hresponse,
    hfingerprint⟩, _, World.event_mem_eventsOf _ _ _ _ _, ?_⟩
  rintro ⟨row', hrow', hid', hnone⟩
  obtain rfl : row' = row := Table.eq_of_clash hrow' hrow (by simp [clash, key, hid', hid])
  rcases hnone with hnone | hnone
  · rw [hm] at hnone
    cases hnone
  · rw [hresponse] at hnone
    cases hnone

lemma Found.moved {r : Request} {row : InboundRow} {w' : World lang Store}
    (h : Found C id r i row w) (hmoved : Moved id i w w') : Found C id r i row w' :=
  fun sent hsent => (h sent hsent).moved hmoved

lemma mem_of_inbound? {s : Store} {id' : InboundId} {row : InboundRow}
    (h : s.inbound? id' = some row) : row ∈ s.inbound ∧ row.id = id' :=
  ⟨List.mem_of_find?_eq_some h, by simpa using List.find?_some h⟩

/-- Nobody has been admitted where no row is found. -/
lemma admissions_eq_nil (hinv : IdInv id w) (h : w.store.inbound? id = none) :
    admissions id w.trace = [] := by
  refine List.eq_nil_iff_forall_not_mem.mpr fun e he => ?_
  obtain ⟨r, hr, hid⟩ := hinv.kept e he
  have hmiss := List.find?_eq_none.mp h r hr
  simp [hid] at hmiss

lemma admissions_ne_nil (hinv : IdInv id w) {row : InboundRow} (hrow : row ∈ w.store.inbound)
    (hid : row.id = id) : admissions id w.trace ≠ [] := by
  obtain ⟨e, he, -⟩ := hinv.bound row hrow hid
  exact List.ne_nil_of_mem he

/-- The row that was read is still within its day. -/
lemma unexpired_of_found {w' : World lang Store} (hinv : IdInv id w) (hinv' : IdInv id w')
    (hmoved : Moved id i w w') (hday : Unexpired id w'.store) {row : InboundRow}
    (hrow : row ∈ w.store.inbound) (hid : row.id = id) : w'.store.clock < row.expiresAt := by
  obtain ⟨e, he, row₀, hcreated, hremains⟩ := hinv.bound row hrow hid
  have he' := admissions_subset hmoved.later.trace_subset he
  obtain ⟨row', hrow', hid'⟩ := hinv'.kept e he'
  obtain ⟨e', he'', row₀', hcreated', hremains'⟩ := hinv'.bound row' hrow' hid'
  obtain rfl : e = e' := eq_of_mem_of_length_le_one hinv'.once he' he''
  obtain rfl : row₀ = row₀' := Option.some.inj (hcreated.symm.trans hcreated')
  have hrest := hday row' hrow' hid'
  rw [hremains'.expiresAt_eq] at hrest
  rwa [hremains.expiresAt_eq]

/-! ## Sending -/

section Send

variable {r : Request} {unf : Prop}

/-- Throwing anything but that the send is unfinished will do. -/
lemma throw_safe {e : Failure} (he : e ≠ .unfinished) :
    InSafe id i (Delivers C id r unf i) (throw e : Program Sent).run w :=
  delivers_error (w := w) (i := i) he

/-- The rule of a statement of a send of which only the value is used. -/
lemma InSafe.step {q : Stmt} {f : q.Value → Program Sent} (hq : ∀ s, Allowed s q)
    (h : ∀ value w', Moved id i w w' → InSafe id i (Delivers C id r unf i) (f value).run w') :
    InSafe id i (Delivers C id r unf i) (Inbound.query q >>= f).run w :=
  InSafe.value hq (fun _ _ he => delivers_error he) h

/-- The send that starts over is safe once somebody has been admitted, who had not when this send
looked. -/
def Restarts (C : Crypto) (id : InboundId) (r : Request) (unf : Prop) (i : ℕ)
    (w : World lang Store) (again : Program Sent) : Prop :=
  ∀ w', Moved id i w w' →
    (r.IsOf C id → admissions id w.trace = [] ∧ admissions id w'.trace ≠ []) →
      InSafe id i (Delivers C id r unf i) again.run w'

/-- The row a request reads is that of its identity. -/
lemma isOf_inboundId {k : Identity} (hk : r.identity = some k) (hid : r.IsOf C id) :
    k.inboundId C = id := by
  obtain ⟨k', hk', hid'⟩ := hid
  obtain rfl := Option.some.inj (hk.symm.trans hk')
  exact hid'

/-- What a row of the identity says that the call has read. -/
structure Known (C : Crypto) (id : InboundId) (r : Request) (i : ℕ) (row : InboundRow)
    (w : World lang Store) : Prop where
  someone : admissions id w.trace ≠ []
  found : Found C id r i row w
  /-- It is within its day whenever the clock is read. -/
  lasts : ∀ w', Moved id i w w' → IdInv id w' → Unexpired id w'.store →
    w'.store.clock < row.expiresAt

/-- The rule of reading the row of the identity. -/
lemma InSafe.readInbound {k : Identity} (hk : r.identity = some k)
    {f : Option InboundRow → Program Sent}
    (hnone : ∀ w', Moved id i w w' → (r.IsOf C id → admissions id w'.trace = []) →
      InSafe id i (Delivers C id r unf i) (f none).run w')
    (hsome : ∀ row w', Moved id i w w' → (r.IsOf C id → Known C id r i row w') →
      InSafe id i (Delivers C id r unf i) (f (some row)).run w') :
    InSafe id i (Delivers C id r unf i) (Inbound.query (.inbound (k.inboundId C)) >>= f).run w := by
  refine InSafe.query (fun _ _ => trivial) fun w₁ hmoved hinv _ fault hafter hnext => ?_
  change Option StorageError at fault
  have hlater := hmoved.trans hnext
  cases fault with
  | some cause => exact throw_safe (by nofun)
  | none =>
    have hread : (run (.inbound (k.inboundId C)) none w₁.store).1 =
        .ok (w₁.store.inbound? (k.inboundId C)) := rfl
    rw [hread]
    cases hrow : w₁.store.inbound? (k.inboundId C) with
    | none =>
      refine hnone _ hlater fun hid => admissions_eq_nil hafter ?_
      rw [← isOf_inboundId hk hid]
      exact hrow
    | some row =>
      refine hsome row _ hlater fun hid => ?_
      obtain ⟨hmem, hid'⟩ := mem_of_inbound? hrow
      rw [isOf_inboundId hk hid] at hid'
      exact ⟨admissions_ne_nil hafter hmem hid', found_of_read hinv hmem hid' _ _ hnext,
        fun w' hmoved' hinv' hday => unexpired_of_found hafter hinv' hmoved' hday hmem hid'⟩

/-- A send that has begun in `w₀`, where nobody had been admitted, and can start over. -/
structure Fresh (C : Crypto) (id : InboundId) (r : Request) (unf : Prop) (i : ℕ)
    (w₀ : World lang Store) (again : Program Sent) (w : World lang Store) : Prop where
  began : r.IsOf C id → admissions id w₀.trace = []
  moved : Moved id i w₀ w
  restarts : Restarts C id r unf i w₀ again

lemma Fresh.on {w₀ w' : World lang Store} {again : Program Sent}
    (h : Fresh C id r unf i w₀ again w) (hmoved : Moved id i w w') :
    Fresh C id r unf i w₀ again w' := ⟨h.began, h.moved.trans hmoved, h.restarts⟩

lemma afterPersist_safe {w₀ : World lang Store} {again : Program Sent}
    (h : Fresh C id r unf i w₀ again w) {e : Failure} (he : e ≠ .unfinished) :
    InSafe id i (Delivers C id r unf i)
      (afterPersist C r (r.identity.map (·.inboundId C)) again e).run w := by
  unfold afterPersist
  split
  · exact throw_safe (by nofun)
  · exact throw_safe he
  · next id' _ hid' =>
    obtain ⟨k, hk, rfl⟩ := Option.map_eq_some_iff.mp hid'
    refine InSafe.readInbound hk (fun w₁ _ _ => throw_safe he) fun winner w₁ hmoved hknown => ?_
    show InSafe id i _ (if _ then throw reusedKey else again : Program Sent).run w₁
    split_ifs
    · exact throw_safe (by nofun)
    · exact h.restarts w₁ (h.moved.trans hmoved) fun hid => ⟨h.began hid, (hknown hid).someone⟩

/-- An admission of the request. -/
def Batch.IsFor (C : Crypto) (r : Request) (batch : Batch) : Prop :=
  batch.inboundId = r.identity.map (·.inboundId C) ∧
    batch.fingerprint = r.payload.inboundFingerprint C ∧ batch.response.id = batch.message.id

/-- A batch that commits admits the request. -/
lemma returns_of_persist {batch : Batch} (hfor : batch.IsFor C r) (hid : r.IsOf C id)
    {a : Fate × Bool} (hok : (run (.persist batch) a w.store).1 = .ok ())
    (delivery : Option DeliveryRow) (durable : Bool) :
    Returns C id r i ⟨batch.response, delivery, durable⟩ (w.after machine i (.persist batch) a) := by
  obtain ⟨k, hk, rfl⟩ := hid
  obtain ⟨hinbound, hfingerprint, hresponse⟩ := hfor
  rw [hk] at hinbound
  have hrow : batch.inboundRow (toSeconds w.store.clock) = some ⟨k.inboundId C,
      batch.message.workspaceId, some batch.message.id, batch.fingerprint, some batch.response,
      toSeconds w.store.clock⟩ := by
    rw [Batch.inboundRow, hinbound]
    rfl
  obtain ⟨hreaches, hrefusal⟩ : a.1.reaches = true ∧ batch.refusal w.store = none := by
    rcases a with ⟨fate, takes⟩
    change (attempt fate (batch.refusal w.store) w.store _).1 = _ at hok
    generalize batch.refusal w.store = refusal at hok ⊢
    cases fate <;> cases refusal <;> simp_all [attempt, commit, Fate.reaches]
  have hcreated : created (w.event machine i (.persist batch) a) =
      if a.1.reaches && (batch.refusal w.store).isNone then
        batch.inboundRow (toSeconds w.store.clock) else none := rfl
  rw [hreaches, hrefusal, hrow] at hcreated
  refine ⟨⟨_, mem_admissions.mpr ⟨List.mem_cons_self, _, hcreated, rfl⟩, _, hcreated, ?_, rfl,
    hfingerprint⟩, _, World.event_mem_eventsOf _ _ _ _ _, ?_⟩
  · rw [hresponse]
  · -- The batch has committed where no row stood.
    rintro ⟨r', hr', hid', -⟩
    have hclash := List.any_eq_false.mp (Batch.free_of_refusal hrefusal hrow) r' hr'
    simp [clash, key, hid'] at hclash

lemma concludeSend_safe {batch : Batch}
    (h : ∀ w', Moved id i w w' → ∀ delivery,
      Delivers C id r unf i (.ok ⟨batch.response, delivery, true⟩) w') :
    InSafe id i (Delivers C id r unf i) (concludeSend batch).run w := by
  unfold concludeSend
  cases batch.delivery with
  | none => exact h w (.refl w) none
  | some delivery =>
    exact InSafe.step (fun _ => trivial) fun outcome w₁ hmoved => h w₁ hmoved outcome

lemma persistNew_safe {w₀ : World lang Store} {again : Program Sent}
    (h : Fresh C id r unf i w₀ again w) {batch : Batch} (hfor : batch.IsFor C r) :
    InSafe id i (Delivers C id r unf i) (persistNew C r batch again).run w := by
  refine InSafe.attempt (fun _ _ => hfor.2.2) fun w₁ hmoved _ _ a _ hnext => ?_
  have hne := run_ne_unfinished (.persist batch) a w₁.store
  have hreturns := fun hid hok => @returns_of_persist C id w₁ i r batch hfor hid a hok
  generalize (run (.persist batch) a w₁.store).1 = reply at hne hreturns ⊢
  cases reply with
  | error e =>
    show InSafe id i _ (afterPersist C r batch.inboundId again e).run _
    rw [hfor.1]
    exact afterPersist_safe ((h.on hmoved).on hnext) fun he => hne (he ▸ rfl)
  | ok done =>
    refine concludeSend_safe fun w₂ hmoved₂ delivery hid => ?_
    exact Returns.moved (hreturns hid rfl delivery true) hmoved₂

lemma sendNew_safe {w₀ : World lang Store} {again : Program Sent}
    (h : Fresh C id r unf i w₀ again w) :
    InSafe id i (Delivers C id r unf i)
      (sendNew C r (r.identity.map (·.inboundId C)) again).run w := by
  refine InSafe.step (fun _ => trivial) fun _ w₁ hm₁ => ?_
  refine InSafe.step (fun _ => trivial) fun recipient w₂ hm₂ => ?_
  change Option AgentRow at recipient
  cases recipient with
  | none => exact throw_safe (by nofun)
  | some toAgent =>
    refine InSafe.step (fun _ => trivial) fun sender w₃ hm₃ => ?_
    change Option AgentRow at sender
    cases sender with
    | none => exact throw_safe (by nofun)
    | some fromAgent =>
      show InSafe id i _ (if _ then throw senderNotFound else _ : Program Sent).run w₃
      split_ifs with hname
      · exact throw_safe (by nofun)
      refine InSafe.step (fun _ => trivial) fun conversation w₄ hm₄ => ?_
      refine InSafe.step (fun _ => trivial) fun messageId w₅ hm₅ => ?_
      refine InSafe.step (fun _ => trivial) fun now w₆ hm₆ => ?_
      refine InSafe.step (fun _ => trivial) fun deliveryId w₇ hm₇ => ?_
      exact persistNew_safe (((((((h.on hm₁).on hm₂).on hm₃).on hm₄).on hm₅).on hm₆).on hm₇)
        ⟨rfl, rfl, rfl⟩

/-! ## Promoting -/

lemma ofExcept_safe {outcome : Except Failure Sent} (h : Delivers C id r unf i outcome w) :
    InSafe id i (Delivers C id r unf i) (Throwing.ofExcept outcome : Program Sent).run w := by
  rw [Throwing.run_ofExcept]
  exact h

lemma promoteLegacyInbound_safe {k : Identity} (hk : r.identity = some k)
    (parsed : Option Legacy) :
    InSafe id i (Delivers C id r unf i) (promoteLegacyInbound C r (k.inboundId C) parsed).run w := by
  unfold promoteLegacyInbound
  cases parsed with
  | none => exact throw_safe (by nofun)
  | some legacy =>
    show InSafe id i _ (if _ then throw unverified else _ : Program Sent).run w
    split_ifs
    · exact throw_safe (by nofun)
    · exact throw_safe (by nofun)
    refine InSafe.step (fun _ => trivial) fun now w₁ hm₁ => ?_
    change Millis at now
    show InSafe id i _ (if _ then throw unverified else _ : Program Sent).run w₁
    split_ifs
    · exact throw_safe (by nofun)
    refine InSafe.step (fun _ => trivial) fun now w₂ hm₂ => ?_
    change Millis at now
    show InSafe id i _ (if _ then throw legacyExpired else _ : Program Sent).run w₂
    split_ifs
    · exact throw_safe (by nofun)
    refine InSafe.step (fun _ => trivial) fun source w₃ hm₃ => ?_
    show InSafe id i _ (if _ then throw unverified else _ : Program Sent).run w₃
    split_ifs
    · exact throw_safe (by nofun)
    refine InSafe.attempt (fun _ _ => trivial) fun w₄ hm₄ _ _ a _ hnext => ?_
    have hne := run_ne_unfinished (.promote ⟨k.inboundId C, r.workspaceId, r.actorId, r.peerId,
      r.tokenHash, r.payload.inboundFingerprint C, legacy⟩) a w₄.store
    generalize (run (.promote _) a w₄.store).1 = inserted at hne ⊢
    cases inserted with
    | error e =>
      cases e with
      | unfinished => exact absurd rfl hne
      | _ => exact throw_safe (by nofun)
    | ok done =>
      refine InSafe.readInbound hk (fun w₅ _ _ => throw_safe (by nofun)) fun row w₅ _ hknown => ?_
      refine InSafe.step (fun _ => trivial) fun now w₆ hm₆ => ?_
      refine ofExcept_safe fun hid => ?_
      have hfound := (hknown hid).found.moved hm₆
      cases hreplay : replayPromoted C r row now with
      | ok sent => exact hfound sent (replayRetained_of_promoted hreplay)
      | error e => exact fun he => absurd (he ▸ hreplay) replayPromoted_ne

lemma sendFresh_safe {w₀ : World lang Store} {again : Program Sent}
    (h : Fresh C id r unf i w₀ again w) (legacyInbound : Option (Option Legacy)) :
    InSafe id i (Delivers C id r unf i)
      (sendFresh C r (r.identity.map (·.inboundId C)) legacyInbound again).run w := by
  cases legacyInbound with
  | none => exact sendNew_safe h
  | some parsed =>
    cases hk : r.identity with
    | none => exact throw_safe (by nofun)
    | some k => exact promoteLegacyInbound_safe hk parsed

lemma sendOnce_safe (legacyInbound : Option (Option Legacy)) {again : Program Sent}
    (hagain : Restarts C id r unf i w again) :
    InSafe id i (Delivers C id r unf i) (sendOnce C r legacyInbound again).run w := by
  unfold sendOnce
  cases hk : r.identity with
  | none =>
    have hnot : ¬r.IsOf C id := by
      rintro ⟨k, hk', -⟩
      rw [hk] at hk'
      cases hk'
    have hfresh : Fresh C id r unf i w again w := ⟨fun hid => absurd hid hnot, .refl w, hagain⟩
    have hsafe := sendFresh_safe hfresh legacyInbound
    rwa [hk] at hsafe
  | some k =>
    have hmap : some (k.inboundId C) = r.identity.map (·.inboundId C) := by rw [hk]; rfl
    refine InSafe.readInbound hk (fun w₁ hm₁ hnone => ?_) fun row w₁ hm₁ hknown => ?_
    · show InSafe id i _ (sendFresh C r (some (k.inboundId C)) legacyInbound again).run w₁
      rw [hmap]
      refine sendFresh_safe ⟨fun hid => ?_, hm₁, hagain⟩ legacyInbound
      refine List.eq_nil_iff_forall_not_mem.mpr fun e he => ?_
      have hmem := admissions_subset hm₁.later.trace_subset he
      rw [hnone hid] at hmem
      exact List.not_mem_nil hmem
    · refine InSafe.query (fun _ _ => trivial) fun w₂ hm₂ hinv₂ hday₂ _ _ hnext₂ => ?_
      show InSafe id i _ (if w₂.store.clock < row.expiresAt then
        Throwing.ofExcept (replayRetained C r row) else _ : Program Sent).run _
      have hm₂' := hm₂.trans hnext₂
      split_ifs with hclock
      · refine ofExcept_safe fun hid => ?_
        cases hreplay : replayRetained C r row with
        | ok sent => exact (hknown hid).found.moved hm₂' sent hreplay
        | error e => exact fun he => absurd (he ▸ hreplay) replayRetained_ne
      · -- Only the row of another identity can be over.
        have hnot : ¬r.IsOf C id := fun hid => hclock ((hknown hid).lasts w₂ hm₂ hinv₂ hday₂)
        refine InSafe.query (fun _ _ => trivial) fun w₃ hm₃ _ _ _ _ hnext₃ => ?_
        refine InSafe.query (fun w₄ hm₄ => (hnext₃.trans hm₄).clock) fun w₄ hm₄ _ _ a _ hnext₄ => ?_
        have hne := run_ne_unfinished (.deleteInbound (k.inboundId C) w₃.store.clock) a w₄.store
        generalize (run (.deleteInbound (k.inboundId C) w₃.store.clock) a w₄.store).1 = reply at hne ⊢
        cases reply with
        | error e => exact throw_safe fun he => hne (he ▸ rfl)
        | ok _ =>
          show InSafe id i _ (sendFresh C r (some (k.inboundId C)) legacyInbound again).run _
          rw [hmap]
          exact sendFresh_safe ⟨fun hid => absurd hid hnot, hm₁.trans (hm₂'.trans ((hm₃.trans
            hnext₃).trans (hm₄.trans hnext₄))), hagain⟩ legacyInbound

/-- A send comes to an end once it may start over: the second time it finds the row. -/
lemma sendDm_safe (legacyInbound : Option (Option Legacy)) (depth : ℕ) (w : World lang Store) :
    InSafe id i (Delivers C id r (depth = 0 ∧ admissions id w.trace = []) i)
      (sendDm C r legacyInbound depth).run w := by
  induction depth generalizing w with
  | zero =>
    refine sendOnce_safe legacyInbound fun w' _ hadmissions hid => ?_
    exact fun _ => ⟨rfl, (hadmissions hid).1⟩
  | succ depth ih =>
    refine sendOnce_safe legacyInbound fun w' _ hadmissions => ?_
    refine Shared.Safe.weaken (ih w') fun outcome w'' hdelivers hid => ?_
    have hhere := hdelivers hid
    cases outcome with
    | ok sent => exact hhere
    | error e => exact fun he => absurd (hhere he).2 (hadmissions hid).2

/-! ## The key-value store -/

/-- An access to the key-value store. -/
def Stmt.IsKv : Stmt → Prop
  | .parallel | .kvGet _ | .kvPut .. | .kvDelete _ => True
  | _ => False

lemma Stmt.IsKv.allowed {q : Stmt} (hq : q.IsKv) (s : Store) : Allowed s q := by
  cases q with
  | parallel | kvGet | kvPut | kvDelete => trivial
  | _ => exact hq.elim

/-- What the lookups in the key-value store do to the rows: nothing. -/
lemma of_isKv {p : Prog lang α} (hp : p.Issues Stmt.IsKv) (w : World lang Store) :
    InSafe id i (fun _ _ => True) p w := by
  refine Shared.Safe.of_issues hp (fun w' q hq hinv hday a => ?_) w
  have hallowed := hq.allowed w'.store
  exact ⟨idInv_after hinv hallowed hday a,
    LaterOn.after (.refl id) (passed_after (i := i) hallowed hday a)⟩

lemma query_issues {q : Stmt} (hq : q.IsKv) : (query q).run.Issues Stmt.IsKv := Prog.issues_ask hq

lemma ofExcept_issues (x : Except Failure α) :
    (Throwing.ofExcept x : Program α).run.Issues Stmt.IsKv := by
  rw [Throwing.run_ofExcept]
  trivial

lemma getProxied_issues (k : Identity) (name : String) :
    (getProxied C k name).run.Issues Stmt.IsKv :=
  Throwing.issues_bind (query_issues trivial) fun _ => ofExcept_issues _

lemma readTogether_issues (k : Identity) : (readTogether C k).Issues Stmt.IsKv := by
  refine Prog.issues_ask_bind trivial fun recordFirst => ?_
  change Except Failure Bool at recordFirst
  have hrecord := getProxied_issues (C := C) k (k.storageKey C)
  have hlock := getProxied_issues (C := C) k (lockKey C k)
  rcases recordFirst with _ | _ | _
  · exact hlock.bind fun _ => hrecord.bind fun _ => trivial
  · exact hlock.bind fun _ => hrecord.bind fun _ => trivial
  · exact hrecord.bind fun _ => hlock.bind fun _ => trivial

lemma claimKey_issues (k : Identity) : (claimKey C k).run.Issues Stmt.IsKv := by
  unfold claimKey
  rw [Throwing.run_lift_bind]
  refine (readTogether_issues k).bind fun reads => ?_
  obtain ⟨record, lock⟩ := reads
  rcases record with e | _ | raw
  · trivial
  · rcases lock with e | _ | lock
    · trivial
    · refine Throwing.issues_bind (query_issues trivial) fun _ => ?_
      rw [Throwing.run_lift_bind]
      refine (getProxied_issues k _).bind fun recheck => ?_
      cases recheck with
      | ok raw => trivial
      | error e => exact ⟨trivial, fun _ => trivial⟩
    · refine Throwing.issues_bind (getProxied_issues k _) fun concurrent => ?_
      cases concurrent <;> trivial
  · trivial

lemma lookup_issues (k : Identity) : (lookup C r k).run.Issues Stmt.IsKv := by
  refine Throwing.issues_bind (claimKey_issues k) fun raw => ?_
  cases raw with
  | none => trivial
  | some raw => exact Throwing.issues_bind (ofExcept_issues _) fun _ => trivial

lemma failClosed_ne (e : Failure) : failClosed e ≠ .unfinished := by
  unfold failClosed
  split
  · split_ifs <;> nofun
  · nofun

/-- What a run of the operation under the key-value store comes to. -/
def Ran (C : Crypto) (id : InboundId) (r : Request) (unf : Prop) (i : ℕ) :
    Except Failure Idempotent → World lang Store → Prop
  | .ok (.ran sent), w => Delivers C id r unf i (.ok sent) w
  | .ok (.replayed _), _ => True
  | .error e, w => Delivers C id r unf i (.error e) w

lemma runIdempotent_safe {k : Identity} {operation : Program Sent}
    (hoperation : ∀ w, InSafe id i (Delivers C id r unf i) operation.run w)
    (w : World lang Store) :
    InSafe id i (Ran C id r unf i) (runIdempotent C r k operation).run w := by
  unfold runIdempotent
  rw [Throwing.run_lift_bind]
  refine Shared.Safe.then (of_isKv (lookup_issues k) w) fun found w₁ _ => ?_
  rcases found with e | _ | data
  · exact delivers_error (w := w₁) (i := i) (failClosed_ne e)
  · show InSafe id i _ (ExceptT.run (Throwing.lift operation.run >>= _)) w₁
    rw [Throwing.run_lift_bind]
    refine Shared.Safe.then (hoperation w₁) fun outcome w₂ hdelivers => ?_
    cases outcome with
    | error e =>
      refine InSafe.attempt (fun _ _ => trivial) fun w₃ hm₃ _ _ _ _ hnext₃ => ?_
      exact hdelivers.moved (hm₃.trans hnext₃)
    | ok sent =>
      refine InSafe.attempt (fun _ _ => trivial) fun w₃ hm₃ _ _ a _ hnext₃ => ?_
      have hdelivers₃ := hdelivers.moved (hm₃.trans hnext₃)
      generalize (run (.kvPut _ _) a w₃.store).1 = stored
      cases stored with
      | ok _ => exact hdelivers₃
      | error _ =>
        refine InSafe.attempt (fun _ _ => trivial) fun w₄ hm₄ _ _ _ _ hnext₄ => ?_
        exact hdelivers₃.moved (hm₄.trans hnext₄)
  · trivial

/-! ## Receiving -/

/-- A send that may start over `depth` times, from any world. -/
lemma send_safe (legacyInbound : Option (Option Legacy)) (depth : ℕ) (w : World lang Store) :
    InSafe id i (Delivers C id r (depth = 0) i) (sendDm C r legacyInbound depth).run w := by
  refine Shared.Safe.weaken (sendDm_safe legacyInbound depth w) fun outcome w' hdelivers hid => ?_
  have hhere := hdelivers hid
  cases outcome with
  | ok sent => exact hhere
  | error e => exact fun he => (hhere he).1

lemma receiveLegacy_safe {k : Identity} (hk : r.identity = some k) (legacy : Option Legacy)
    (depth : ℕ) (w : World lang Store) :
    InSafe id i (Delivers C id r (depth = 0) i) (receiveLegacy C r depth k legacy).run w := by
  unfold receiveLegacy
  rw [Throwing.run_lift_bind]
  refine Shared.Safe.then (send_safe _ depth w) fun outcome w₁ hdelivers => ?_
  refine InSafe.readInbound hk (fun w₂ hm₂ _ => ?_) fun row w₂ hm₂ _ => ?_
  · exact ofExcept_safe (hdelivers.moved hm₂)
  · refine InSafe.attempt (fun _ _ => trivial) fun w₃ hm₃ _ _ _ _ hnext₃ => ?_
    exact ofExcept_safe ((hdelivers.moved hm₂).moved (hm₃.trans hnext₃))

lemma receiveCompleted_safe {k : Identity} (hk : r.identity = some k) (depth : ℕ)
    (w : World lang Store) :
    InSafe id i (Delivers C id r (depth = 0) i) (receiveCompleted C r depth k).run w :=
  InSafe.readInbound hk (fun _ _ _ => throw_safe (by nofun)) fun _ w₁ _ _ =>
    send_safe none depth w₁

lemma receiveIdempotently_safe (r : Request) (depth : ℕ) (w : World lang Store) :
    InSafe id i (Delivers C id r (depth = 0) i) (receiveIdempotently C r depth).run w := by
  unfold receiveIdempotently
  cases hk : r.identity with
  | none => exact send_safe none depth w
  | some k =>
    refine InSafe.readInbound hk (fun w₁ _ _ => ?_) fun row w₁ _ _ => ?_
    · cases r.kv with
      | false => exact send_safe none depth w₁
      | true =>
        refine Shared.Safe.throwing_bind
          (runIdempotent_safe (fun w => send_safe none depth w) w₁) (fun result w₂ hran => ?_)
          fun e w₂ he => he
        cases result with
        | ran sent => exact hran
        | replayed data =>
          rcases data with _ | _ | ⟨hasMessage, legacy⟩
          · exact receiveCompleted_safe hk depth w₂
          · exact throw_safe (by nofun)
          · cases hasMessage with
            | false => exact receiveCompleted_safe hk depth w₂
            | true => exact receiveLegacy_safe hk legacy depth w₂
    · cases r.kv <;> exact send_safe none depth w₁

end Send

end Calls

end Inbound
