import Mathlib.Data.String.Basic
import Relaycast.Inbound.Receiving

/-!
# An inbound message is admitted once

Over every run within the day of an identity, its receives write at most one row of it, one
message, one delivery, and raise the counter of the registration by one; every receive that returns
gives the admitted response, and carried the admitted payload.  The batch names the registration it
was authenticated under, and commits only if that is still the one.  Once the message was pruned,
no later receive returns.

The day counts from the second that is stored, and the stored second is the one the admission
happened in: a retry in the last fraction of the day finds the row expired, and sends again
(`receive_again_within_day`).
-/

namespace Inbound

open Relational Interleaving Script

variable {C : Crypto} {id : InboundId} {k : Identity}

/-! ## Names -/

lemma Identity.inboundId_injective : Function.Injective (Identity.inboundId C) := by
  intro k k' h
  have hdigest := C.sha256Hex.injective (String.append_right_inj _ |>.mp h)
  have hjson := render_injective hdigest
  simp only [Json.arr.injEq, List.cons.injEq, Json.str.injEq, and_true] at hjson
  obtain ⟨hworkspace, hactor, hscope, hkey⟩ := hjson
  cases k
  cases k'
  simp_all

lemma Payload.inboundFingerprint_injective :
    Function.Injective (Payload.inboundFingerprint C) := by
  intro p p' h
  have hjson := render_injective (C.sha256Hex.injective h)
  rcases p with ⟨recipient, text, metadata⟩
  rcases p' with ⟨recipient', text', metadata'⟩
  simp only [Payload.dataField, Json.obj.injEq, List.cons_append, List.nil_append, List.cons.injEq,
    Prod.mk.injEq, Json.str.injEq, true_and] at hjson
  obtain ⟨rfl, rfl, hfields⟩ := hjson
  rcases metadata with _ | metadata <;> rcases metadata' with _ | metadata' <;>
    simp_all

/-! ## What the calls issue -/

/-- A batch of the request. -/
structure Batch.IsOf (C : Crypto) (r : Request) (batch : Batch) : Prop where
  admits : batch.IsFor C r
  workspaceId : batch.message.workspaceId = r.workspaceId
  agentId : batch.message.agentId = r.actorId
  peerId : batch.peerId = r.peerId
  tokenHash : batch.tokenHash = r.tokenHash
  delivery : ∀ d, batch.delivery = some d → d.messageId = batch.message.id

/-- A promotion of the request. -/
structure Promotion.IsOf (C : Crypto) (r : Request) (p : Promotion) : Prop where
  inboundId : r.identity.map (·.inboundId C) = some p.inboundId
  fingerprint : p.fingerprint = r.payload.inboundFingerprint C
  workspaceId : p.workspaceId = r.workspaceId
  fromAgentId : p.fromAgentId = r.actorId
  peerId : p.peerId = r.peerId
  tokenHash : p.tokenHash = r.tokenHash

/-- What a receive issues. -/
def IssuedBy (C : Crypto) (r : Request) : Stmt → Prop
  | .persist batch => batch.IsOf C r
  | .promote promotion => promotion.IsOf C r
  | .sweepInbound _ | .pruneMessages _ | .rotateToken .. | .addPeer _ | .removePeer _ => False
  | _ => True

section Issues

variable {r : Request}

lemma query_issuedBy {q : Stmt} (hq : IssuedBy C r q) : (query q).run.Issues (IssuedBy C r) :=
  Prog.issues_ask hq

lemma ofExcept_issuedBy {α : Type} (x : Except Failure α) :
    (Throwing.ofExcept x : Program α).run.Issues (IssuedBy C r) := by
  rw [Throwing.run_ofExcept]
  trivial

lemma attempt_issuedBy {α : Type} {q : Stmt} {f : Except Failure q.Value → Program α}
    (hq : IssuedBy C r q) (hf : ∀ reply, (f reply).run.Issues (IssuedBy C r)) :
    (Throwing.lift (Prog.ask (L := lang) q) >>= f).run.Issues (IssuedBy C r) := by
  rw [Throwing.run_lift_bind]
  exact Prog.issues_ask_bind hq hf

lemma promoteLegacyInbound_issuedBy (hk : r.identity = some k) (parsed : Option Legacy) :
    (promoteLegacyInbound C r (k.inboundId C) parsed).run.Issues (IssuedBy C r) := by
  unfold promoteLegacyInbound
  cases parsed with
  | none => trivial
  | some legacy =>
    show Prog.Issues _ (if _ then throw unverified else _ : Program Sent).run
    split_ifs
    · trivial
    · trivial
    refine Throwing.issues_bind (query_issuedBy trivial) fun now => ?_
    change Millis at now
    show Prog.Issues _ (if _ then throw unverified else _ : Program Sent).run
    split_ifs
    · trivial
    refine Throwing.issues_bind (query_issuedBy trivial) fun now => ?_
    change Millis at now
    show Prog.Issues _ (if _ then throw legacyExpired else _ : Program Sent).run
    split_ifs
    · trivial
    refine Throwing.issues_bind (query_issuedBy trivial) fun source => ?_
    show Prog.Issues _ (if _ then throw unverified else _ : Program Sent).run
    split_ifs
    · trivial
    refine attempt_issuedBy ⟨by rw [hk]; rfl, rfl, rfl, rfl, rfl, rfl⟩ fun inserted => ?_
    rcases inserted with e | _
    · cases e <;> trivial
    refine Throwing.issues_bind (query_issuedBy trivial) fun retained => ?_
    change Option InboundRow at retained
    cases retained with
    | none => trivial
    | some row =>
      exact Throwing.issues_bind (query_issuedBy trivial) fun now => ofExcept_issuedBy _

lemma afterPersist_issuedBy {inboundId : Option InboundId} {again : Program Sent}
    (hagain : again.run.Issues (IssuedBy C r)) (e : Failure) :
    (afterPersist C r inboundId again e).run.Issues (IssuedBy C r) := by
  unfold afterPersist
  split
  · trivial
  · trivial
  · refine Throwing.issues_bind (query_issuedBy trivial) fun winner => ?_
    change Option InboundRow at winner
    cases winner with
    | none => trivial
    | some winner =>
      show Prog.Issues _ (if _ then throw reusedKey else again : Program Sent).run
      split_ifs
      · trivial
      · exact hagain

lemma persistNew_issuedBy {batch : Batch} (hbatch : batch.IsOf C r) {again : Program Sent}
    (hagain : again.run.Issues (IssuedBy C r)) :
    (persistNew C r batch again).run.Issues (IssuedBy C r) := by
  refine attempt_issuedBy hbatch fun persisted => ?_
  rcases persisted with e | _
  · exact afterPersist_issuedBy hagain e
  · show (concludeSend batch).run.Issues _
    unfold concludeSend
    cases batch.delivery with
    | none => trivial
    | some delivery => exact Throwing.issues_bind (query_issuedBy trivial) fun _ => trivial

lemma sendNew_issuedBy {again : Program Sent} (hagain : again.run.Issues (IssuedBy C r)) :
    (sendNew C r (r.identity.map (·.inboundId C)) again).run.Issues (IssuedBy C r) := by
  refine Throwing.issues_bind (query_issuedBy trivial) fun _ => ?_
  refine Throwing.issues_bind (query_issuedBy trivial) fun recipient => ?_
  change Option AgentRow at recipient
  cases recipient with
  | none => trivial
  | some toAgent =>
    refine Throwing.issues_bind (query_issuedBy trivial) fun sender => ?_
    change Option AgentRow at sender
    cases sender with
    | none => trivial
    | some fromAgent =>
      show Prog.Issues _ (if _ then throw senderNotFound else _ : Program Sent).run
      split_ifs
      · trivial
      refine Throwing.issues_bind (query_issuedBy trivial) fun conversation => ?_
      refine Throwing.issues_bind (query_issuedBy trivial) fun messageId => ?_
      refine Throwing.issues_bind (query_issuedBy trivial) fun now => ?_
      refine Throwing.issues_bind (query_issuedBy trivial) fun deliveryId => ?_
      refine persistNew_issuedBy ⟨⟨rfl, rfl, rfl⟩, rfl, rfl, rfl, rfl, fun d hd => ?_⟩ hagain
      unfold newBatch at hd
      split_ifs at hd
      obtain rfl := Option.some.inj hd
      rfl

lemma sendOnce_issuedBy (legacyInbound : Option (Option Legacy)) {again : Program Sent}
    (hagain : again.run.Issues (IssuedBy C r)) :
    (sendOnce C r legacyInbound again).run.Issues (IssuedBy C r) := by
  have hfresh : (sendFresh C r (r.identity.map (·.inboundId C)) legacyInbound again).run.Issues
      (IssuedBy C r) := by
    cases legacyInbound with
    | none => exact sendNew_issuedBy hagain
    | some parsed =>
      cases hk : r.identity with
      | none => trivial
      | some k => exact promoteLegacyInbound_issuedBy hk parsed
  unfold sendOnce
  cases hk : r.identity with
  | none => rwa [hk] at hfresh
  | some k =>
    rw [hk] at hfresh
    refine Throwing.issues_bind (query_issuedBy trivial) fun retained => ?_
    change Option InboundRow at retained
    cases retained with
    | none => exact hfresh
    | some row =>
      refine Throwing.issues_bind (query_issuedBy trivial) fun now => ?_
      change Millis at now
      show Prog.Issues _ (if now < row.expiresAt then Throwing.ofExcept (replayRetained C r row)
        else _ : Program Sent).run
      split_ifs
      · exact ofExcept_issuedBy _
      · refine Throwing.issues_bind (query_issuedBy trivial) fun now => ?_
        exact Throwing.issues_bind (query_issuedBy trivial) fun _ => hfresh

lemma sendDm_issuedBy (legacyInbound : Option (Option Legacy)) (depth : ℕ) :
    (sendDm C r legacyInbound depth).run.Issues (IssuedBy C r) := by
  induction depth with
  | zero => exact sendOnce_issuedBy legacyInbound trivial
  | succ depth ih => exact sendOnce_issuedBy legacyInbound ih

lemma lookup_issuedBy (k : Identity) : (lookup C r k).run.Issues (IssuedBy C r) := by
  refine (lookup_issues k).mono fun q hq => ?_
  cases q with
  | parallel | kvGet | kvPut | kvDelete => trivial
  | _ => exact hq.elim

lemma runIdempotent_issuedBy (k : Identity) {operation : Program Sent}
    (hoperation : operation.run.Issues (IssuedBy C r)) :
    (runIdempotent C r k operation).run.Issues (IssuedBy C r) := by
  unfold runIdempotent
  rw [Throwing.run_lift_bind]
  refine (lookup_issuedBy k).bind fun found => ?_
  rcases found with e | _ | data
  · trivial
  · show Prog.Issues _ (ExceptT.run (Throwing.lift operation.run >>= _))
    rw [Throwing.run_lift_bind]
    refine hoperation.bind fun outcome => ?_
    cases outcome with
    | error e => exact attempt_issuedBy trivial fun _ => trivial
    | ok sent =>
      refine attempt_issuedBy trivial fun stored => ?_
      rcases stored with _ | _
      · exact attempt_issuedBy trivial fun _ => trivial
      · trivial
  · trivial

lemma receiveIdempotently_issuedBy (depth : ℕ) :
    (receiveIdempotently C r depth).run.Issues (IssuedBy C r) := by
  unfold receiveIdempotently
  cases r.identity with
  | none => exact sendDm_issuedBy none depth
  | some k =>
    have hcompleted : (receiveCompleted C r depth k).run.Issues (IssuedBy C r) := by
      refine Throwing.issues_bind (query_issuedBy trivial) fun winner => ?_
      change Option InboundRow at winner
      cases winner with
      | none => trivial
      | some _ => exact sendDm_issuedBy none depth
    refine Throwing.issues_bind (query_issuedBy trivial) fun retained => ?_
    change Option InboundRow at retained
    rcases retained with _ | row
    · cases r.kv with
      | false => exact sendDm_issuedBy none depth
      | true =>
        refine Throwing.issues_bind (runIdempotent_issuedBy k (sendDm_issuedBy none depth))
          fun result => ?_
        rcases result with sent | _ | _ | ⟨_ | _, legacy⟩
        · trivial
        · exact hcompleted
        · trivial
        · exact hcompleted
        · show (receiveLegacy C r depth k legacy).run.Issues _
          unfold receiveLegacy
          rw [Throwing.run_lift_bind]
          refine (sendDm_issuedBy _ depth).bind fun outcome => ?_
          refine Throwing.issues_bind (query_issuedBy trivial) fun promoted => ?_
          change Option InboundRow at promoted
          cases promoted with
          | none => exact ofExcept_issuedBy outcome
          | some _ => exact attempt_issuedBy trivial fun _ => ofExcept_issuedBy outcome
    · cases r.kv <;> exact sendDm_issuedBy none depth

end Issues

/-- What a call issues: a receive, for its request. -/
def Call.Issued (C : Crypto) : Call → Stmt → Prop
  | .receive r _, q => IssuedBy C r q
  | _, .persist _ | _, .promote _ => False
  | _, _ => True

lemma call_issued (c : Call) : (c.body C).Issues (c.Issued C) := by
  cases c with
  | receive r depth => exact receiveIdempotently_issuedBy depth
  | sweepPendingA2aEgress =>
    exact Throwing.issues_bind (Prog.issues_ask trivial) fun _ => Prog.issues_ask trivial
  | pruneMessages | rotateAgentToken | registerA2aAgent | removeA2aAgent =>
    exact Prog.issues_ask trivial

/-! ## What an admission adds -/

/-- No message, delivery or identity is added, and no registration counts one. -/
structure AddsNothing (s s' : Store) : Prop where
  message : ∀ m ∈ s'.messages, m ∈ s.messages
  delivery : ∀ d ∈ s'.deliveries, d ∈ s.deliveries
  received : s'.peers = s.peers
  row : ∀ r' ∈ s'.inbound, ∃ r ∈ s.inbound, r'.id = r.id

/-- What the batch of a new message adds: the message, at most its delivery, its row, and one to
what the registration counts. -/
structure AddsMessage (batch : Batch) (row : InboundRow) (s s' : Store) : Prop where
  message : s'.messages.rows = s.messages.rows ++ [batch.message]
  delivery : s'.deliveries = s.deliveries ∨
    ∃ d, batch.delivery = some d ∧ s'.deliveries.rows = s.deliveries.rows ++ [d]
  received : s'.peers.rows =
    s.peers.rows.map fun peer => if batch.isCountedBy peer then Store.countReceived peer else peer
  counted : ∃ peer ∈ s.peers, ∀ peer' ∈ s.peers, batch.isCountedBy peer' = true ↔ peer' = peer
  row : s'.inbound.rows = s.inbound.rows ++ [row]

/-- What a promotion adds: its row. -/
structure AddsRow (row : InboundRow) (s s' : Store) : Prop where
  message : s'.messages = s.messages
  delivery : s'.deliveries = s.deliveries
  received : s'.peers = s.peers
  row : s'.inbound.rows = s.inbound.rows ++ [row]

lemma rows_insertOrIgnore {Row : Type} [Keyed Row] {T : Table Row} {r : Row}
    (h : T.conflicts r = false) : (T.insertOrIgnore r).rows = T.rows ++ [r] := by
  unfold Table.insertOrIgnore
  rw [dif_pos h]
  rfl

section Step

variable {w : World lang Store} {i : ℕ}

/-- A batch that puts its row commits as a whole, under the registration it names. -/
lemma adds_of_persist {batch : Batch} {a : Fate × Bool} {row : InboundRow}
    (h : created (w.event machine i (.persist batch) a) = some row) :
    batch.inboundRow (toSeconds w.store.clock) = some row ∧
      w.store.isAuthenticated batch.message.workspaceId batch.message.agentId batch.peerId
        batch.tokenHash = true ∧
      AddsMessage batch row w.store (w.after machine i (.persist batch) a).store := by
  change (if a.1.reaches && (batch.refusal w.store).isNone then
    batch.inboundRow (toSeconds w.store.clock) else none) = some row at h
  have hstore : (w.after machine i (.persist batch) a).store =
      if a.1.reaches && (batch.refusal w.store).isNone then batch.apply a.2 w.store
      else w.store := persist_store batch a w.store
  split_ifs at h with happlied
  rw [if_pos happlied] at hstore
  rw [Bool.and_eq_true, Option.isNone_iff_eq_none] at happlied
  have hfree := Batch.free_of_refusal happlied.2 h
  have hrefusal := happlied.2
  unfold Batch.refusal at hrefusal
  split_ifs at hrefusal with hauth hconflicts
  have hauthentic : w.store.isAuthenticated batch.message.workspaceId batch.message.agentId
      batch.peerId batch.tokenHash = true := by simpa using hauth
  have hmessage : w.store.messages.conflicts batch.message = false := by
    rw [Batch.conflicts, Bool.or_eq_true, not_or, Bool.not_eq_true] at hconflicts
    exact hconflicts.1
  refine ⟨h, hauthentic, ?_⟩
  rw [hstore]
  constructor
  case message => exact rows_insertOrIgnore hmessage
  case delivery =>
    dsimp only [Batch.apply]
    cases batch.delivery with
    | none => exact .inl rfl
    | some d =>
      cases a.2 with
      | false => exact .inl rfl
      | true =>
        cases hconflicts : w.store.deliveries.conflicts d with
        | true => exact .inl (by simp [Table.insertOrIgnore, hconflicts])
        | false => exact .inr ⟨d, rfl, rows_insertOrIgnore hconflicts⟩
  case received => rfl
  case counted =>
    rw [Store.isAuthenticated, Bool.and_eq_true, List.any_eq_true] at hauthentic
    obtain ⟨⟨peer, hpeer, hmatch⟩, -⟩ := hauthentic
    refine ⟨peer, hpeer, fun peer' hpeer' => ⟨fun hcounted => ?_, ?_⟩⟩
    · simp only [Batch.isCountedBy, Bool.and_eq_true, beq_iff_eq] at hcounted hmatch
      exact Table.eq_of_clash hpeer' hpeer
        (by simp [clash, key, hcounted.1.1, hmatch.1.1])
    · rintro rfl
      exact hmatch
  case row =>
    show ((batch.inboundRow _).elim w.store.inbound w.store.inbound.insertOrIgnore).rows = _
    rw [h]
    exact rows_insertOrIgnore hfree

/-- A promotion that puts its row was made under the registration it names. -/
lemma adds_of_promote {p : Promotion} {a : Fate} {row : InboundRow}
    (h : created (w.event machine i (.promote p) a) = some row) :
    p.inboundRow w.store = row ∧ p.isAuthenticated w.store = true ∧
      AddsRow row w.store (w.after machine i (.promote p) a).store := by
  change (if a.reaches && p.isAuthenticated w.store &&
    !w.store.inbound.conflicts (p.inboundRow w.store) then some (p.inboundRow w.store)
      else none) = some row at h
  split_ifs at h with happlied
  obtain rfl := Option.some.inj h
  simp only [Bool.and_eq_true, Bool.not_eq_true'] at happlied
  obtain ⟨⟨hreaches, hauth⟩, hfree⟩ := happlied
  have hstore : (w.after machine i (.promote p) a).store = p.apply w.store := by
    refine (promote_store p a w.store).trans ?_
    rw [hauth, hreaches]
    rfl
  refine ⟨rfl, hauth, ?_⟩
  rw [hstore]
  exact ⟨rfl, rfl, rfl, rows_insertOrIgnore hfree⟩

lemma AddsNothing.refl (s : Store) : AddsNothing s s :=
  ⟨fun _ h => h, fun _ h => h, rfl, fun r hr => ⟨r, hr, rfl⟩⟩

lemma commit_addsNothing {fate : Fate} {s s' : Store} (h : AddsNothing s s') :
    AddsNothing s (commit fate s s').2 := by
  cases fate with
  | commits | loses cause => exact h
  | fails cause => exact .refl s

/-- Whatever else a receive of the identity executes adds nothing. -/
lemma addsNothing_of_issued {r : Request} {q : Stmt} (hq : IssuedBy C r q)
    (hk : r.identity = some k) (a : q.Answer)
    (hnone : ∀ row, created (w.event machine i q a) = some row → row.id ≠ k.inboundId C) :
    AddsNothing w.store (w.after machine i q a).store := by
  cases q with
  | persist batch =>
    change Fate × Bool at a
    have hid : batch.inboundId = some (k.inboundId C) := by
      rw [hq.admits.1, hk]
      rfl
    have hstore : (w.after machine i (.persist batch) a).store =
        if a.1.reaches && (batch.refusal w.store).isNone then batch.apply a.2 w.store
        else w.store := persist_store batch a w.store
    rw [hstore]
    split_ifs with happlied
    · have hcreated : created (w.event machine i (.persist batch) a) =
          if a.1.reaches && (batch.refusal w.store).isNone then
            batch.inboundRow (toSeconds w.store.clock) else none := rfl
      rw [if_pos happlied, Batch.inboundRow, hid] at hcreated
      exact absurd rfl (hnone _ hcreated)
    · exact .refl w.store
  | promote p =>
    change Fate at a
    have hid : p.inboundId = k.inboundId C := by
      have hmap := hq.inboundId
      rw [hk] at hmap
      exact (Option.some.inj hmap).symm
    have hcreated : created (w.event machine i (.promote p) a) =
        if a.reaches && p.isAuthenticated w.store &&
            !w.store.inbound.conflicts (p.inboundRow w.store) then
          some (p.inboundRow w.store) else none := rfl
    have hstore : (w.after machine i (.promote p) a).store =
        if a.reaches && p.isAuthenticated w.store then p.apply w.store
        else w.store := promote_store p a w.store
    rw [hstore]
    by_cases happlied : (a.reaches && p.isAuthenticated w.store) = true
    · rw [if_pos happlied]
      cases hconflicts : w.store.inbound.conflicts (p.inboundRow w.store) with
      | true =>
        have hsame : p.apply w.store = w.store := by
          simp [Promotion.apply, Table.insertOrIgnore, hconflicts]
        rw [hsame]
        exact .refl w.store
      | false =>
        rw [happlied, hconflicts] at hcreated
        exact absurd hid (hnone _ hcreated)
    · rw [if_neg happlied]
      exact .refl w.store
  | sweepInbound | pruneMessages | rotateToken | addPeer | removePeer => exact hq.elim
  | deleteInbound id' now =>
    refine commit_addsNothing ⟨fun _ h => h, fun _ h => h, rfl, fun r hr => ?_⟩
    exact ⟨r, (Table.mem_deleteWhere.mp hr).1, rfl⟩
  | kvPut | kvDelete =>
    exact commit_addsNothing ⟨fun _ h => h, fun _ h => h, rfl, fun r hr => ⟨r, hr, rfl⟩⟩
  | _ => exact .refl w.store

end Step

/-! ## The runs -/

/-- No row of the identity is there yet. -/
def Unclaimed (C : Crypto) (k : Identity) (s : Store) : Prop :=
  ∀ r ∈ s.inbound, r.id ≠ k.inboundId C

/-- The receives of an identity that is new, among whatever else is received. -/
abbrev inboundService (C : Crypto) (k : Identity) : System lang Store Call Call.Result :=
  service C (Unclaimed C k)

lemma idInv_init {s : Store} (h : Unclaimed C k s) : IdInv (k.inboundId C) ⟨s, []⟩ where
  once := Nat.zero_le _
  bound r hr hid := absurd hid (h r hr)
  kept e he := by simp [admissions] at he
  answers e he := by simp [admissions] at he

/-- What each call promises. -/
def Call.Promises (C : Crypto) (id : InboundId) (i : ℕ) :
    (c : Call) → c.Result → World lang Store → Prop
  | .receive r depth, outcome, w => Delivers C id r (depth = 0) i outcome w
  | _, _, _ => True

lemma call_keeps (c : Call) (i : ℕ) (w : World lang Store) :
    InSafe id i (c.Promises C id i) (c.body C) w := by
  cases c with
  | receive r depth => exact receiveIdempotently_safe r depth w
  | sweepPendingA2aEgress =>
    refine InSafe.query (fun _ _ => trivial) fun w₁ _ _ _ _ _ hnext => ?_
    exact InSafe.only fun w₂ hmoved => (hnext.trans hmoved).clock
  | pruneMessages | rotateAgentToken | registerA2aAgent | removeA2aAgent =>
    exact InSafe.only fun _ _ => trivial

/-- Call `i` is a receive of the identity. -/
def Receives (k : Identity) (g : Config lang Store Call.Result) (i : ℕ) (r : Request) : Prop :=
  r.identity = some k ∧ ∃ depth prog, g.threads[i]? = some ⟨.receive r depth, prog⟩

/-- Call `i` is a receive of the identity, and has come to `outcome`. -/
def CameTo (k : Identity) (g : Config lang Store Call.Result) (i : ℕ) (r : Request) (depth : ℕ)
    (outcome : Except Failure Sent) : Prop :=
  r.identity = some k ∧ g.threads[i]? = some ⟨.receive r depth, some (Prog.done outcome)⟩

lemma CameTo.receives {g : Config lang Store Call.Result} {i : ℕ} {r : Request} {depth : ℕ}
    {outcome : Except Failure Sent} (h : CameTo k g i r depth outcome) : Receives k g i r :=
  ⟨h.1, depth, _, h.2⟩

/-- The invariant in every run, and what every receive has come to. -/
lemma idInv_of_reachable {g : Config lang Store Call.Result}
    (h : (inboundService C k).Reachable (withinDay (k.inboundId C)) g) :
    IdInv (k.inboundId C) g.world ∧ ∀ i r depth outcome, CameTo k g i r depth outcome →
      Delivers C (k.inboundId C) r (depth = 0) i outcome g.world := by
  obtain ⟨hinv, hreturned⟩ := Shared.sound (S := inboundService C k) (H := shared (k.inboundId C))
    (Q := fun c i => c.Promises C (k.inboundId C) i) (fun _ hs => idInv_init hs)
    (fun d _ hw => idInv_drift hw d) (fun d w => LaterOn.drift (passed_drift d w.store))
    (fun c _ i w _ _ => call_keeps c i w) h
  refine ⟨hinv, ?_⟩
  rintro i r depth outcome ⟨-, hi⟩
  obtain ⟨w₀, hown, hlater, hpromises⟩ := hreturned i (.receive r depth) outcome hi
  exact Delivers.moved hpromises ⟨hown ▸ List.Subset.refl _, hlater⟩

/-- What is never taken back, in a run. -/
lemma laterOn_of_run {g g' : Config lang Store Call.Result}
    (h : (inboundService C k).Reachable (withinDay (k.inboundId C)) g)
    (hrun : Relation.ReflTransGen ((inboundService C k).Step (withinDay (k.inboundId C))) g g') :
    LaterOn (Passed (k.inboundId C)) g.world g'.world :=
  Shared.grows_of_run (S := inboundService C k) (H := shared (k.inboundId C))
    (Q := fun c i => c.Promises C (k.inboundId C) i) (fun _ hs => idInv_init hs)
    (fun d _ hw => idInv_drift hw d) (fun d w => LaterOn.drift (passed_drift d w.store))
    (fun c _ i w _ _ => call_keeps c i w) h hrun

/-! ## The main result -/

/-- What an executed statement has admitted of a request, under its registration as it was. -/
def AdmitsOnly (C : Crypto) (r : Request) (e : Event lang Store) : Prop :=
  e.before.isAuthenticated r.workspaceId r.actorId r.peerId r.tokenHash = true ∧
    ∃ row, created e = some row ∧ row.fingerprint = r.payload.inboundFingerprint C ∧
      ((∃ batch, batch.IsOf C r ∧ AddsMessage batch row e.before e.after) ∨
        AddsRow row e.before e.after)

/-- What holds of an identity after a run. -/
structure ReceivedOnce (C : Crypto) (k : Identity) (g : Config lang Store Call.Result) : Prop where
  /-- One statement has written a row of the identity. -/
  once : (admissions (k.inboundId C) g.world.trace).length ≤ 1
  /-- It was one of a receive, whose registration still stood, and has added no more than one
  message, one delivery and one to what the registration counts. -/
  admission : ∀ e ∈ admissions (k.inboundId C) g.world.trace,
    ∃ r, Receives k g e.caller r ∧ AdmitsOnly C r e
  /-- Whatever else the receives have executed has added nothing. -/
  rest : ∀ e ∈ g.world.trace, e ∉ admissions (k.inboundId C) g.world.trace → ∀ r,
    Receives k g e.caller r → AddsNothing e.before e.after
  /-- Who returns, returns the message that was admitted, with the payload that was admitted. -/
  returned : ∀ i r depth sent, CameTo k g i r depth (.ok sent) →
    ∃ e ∈ admissions (k.inboundId C) g.world.trace, ∃ row, created e = some row ∧
      row.messageId = some sent.accepted.id ∧ row.response = some sent.accepted ∧
        ∀ r', Receives k g e.caller r' → r.payload = r'.payload
  /-- All that return give one message id. -/
  same : ∀ i r depth sent i' r' depth' sent', CameTo k g i r depth (.ok sent) →
    CameTo k g i' r' depth' (.ok sent') → sent.accepted.id = sent'.accepted.id
  /-- A send that may start over comes to an end. -/
  ends : ∀ i r depth, CameTo k g i r depth (.error .unfinished) → depth = 0

/-- What holds once the message of the identity was pruned: no receive that is made later returns,
and none admits anything. -/
def SettledSince (C : Crypto) (k : Identity) (g g' : Config lang Store Call.Result) : Prop :=
  Pruned (k.inboundId C) g.world.store →
    admissions (k.inboundId C) g'.world.trace = admissions (k.inboundId C) g.world.trace ∧
      ∀ i r depth sent, g.threads.length ≤ i → ¬CameTo k g' i r depth (.ok sent)

/-- What every executed statement does. -/
def Effect (C : Crypto) (e : Event lang Store) : Prop :=
  (∀ r row, IssuedBy C r e.stmt → created e = some row → AdmitsOnly C r e) ∧
    ∀ r k, IssuedBy C r e.stmt → r.identity = some k →
      (∀ row, created e = some row → row.id ≠ k.inboundId C) → AddsNothing e.before e.after

lemma event_effect (w : World lang Store) (i : ℕ) (q : Stmt) (a : q.Answer) :
    Effect C (w.event machine i q a) := by
  refine ⟨fun r row hq hrow => ?_, fun r k hq hk hnone => addsNothing_of_issued hq hk a hnone⟩
  cases q with
  | persist batch =>
    obtain ⟨hinbound, hauth, hadds⟩ := adds_of_persist hrow
    have hof : batch.IsOf C r := hq
    rw [hof.workspaceId, hof.agentId, hof.peerId, hof.tokenHash] at hauth
    refine ⟨hauth, row, hrow, ?_, .inl ⟨batch, hof, hadds⟩⟩
    obtain ⟨id', -, rfl⟩ := Option.map_eq_some_iff.mp hinbound
    exact hof.admits.2.1
  | promote p =>
    obtain ⟨hrow', hauth, hadds⟩ := adds_of_promote hrow
    have hof : p.IsOf C r := hq
    rw [Promotion.isAuthenticated, hof.workspaceId, hof.fromAgentId, hof.peerId,
      hof.tokenHash] at hauth
    refine ⟨hauth, row, hrow, ?_, .inr hadds⟩
    rw [← hrow']
    exact hof.fingerprint
  | _ => cases hrow

lemma effect_of_reachable {g : Config lang Store Call.Result}
    (h : (inboundService C k).Reachable (withinDay (k.inboundId C)) g) :
    ∀ e ∈ g.world.trace, Effect C e :=
  System.events_of_statements (S := inboundService C k) (P := fun _ => True) (I := fun _ => True)
    (fun _ _ => trivial) (fun _ _ _ => trivial) (fun _ _ => Prog.issues_true _)
    (fun _ _ _ _ _ _ _ => trivial) (fun w i q _ _ a => event_effect w i q a) h

/-- An admission is that of one of the receives of the identity. -/
lemma receives_of_admission {g : Config lang Store Call.Result}
    (h : (inboundService C k).Reachable (withinDay (k.inboundId C)) g) {e : Event lang Store}
    (he : e ∈ admissions (k.inboundId C) g.world.trace) :
    ∃ r, Receives k g e.caller r ∧ IssuedBy C r e.stmt := by
  obtain ⟨hmem, row, hrow, hid⟩ := mem_admissions.mp he
  obtain ⟨⟨c, prog⟩, ht, hissued⟩ := System.caller_of_event (S := inboundService C k)
    (P := fun c q => c.Issued C q) (fun c _ => call_issued c) h e hmem
  have hidentity : ∀ r, IssuedBy C r e.stmt → r.identity = some k := by
    intro r hq
    have hmap : r.identity.map (·.inboundId C) = some (k.inboundId C) := by
      obtain ⟨caller, q, a, reply, before, after⟩ := e
      cases q with
      | persist batch =>
        change (if _ then batch.inboundRow (toSeconds before.clock) else none) = some row at hrow
        split_ifs at hrow
        obtain ⟨id', hid', rfl⟩ := Option.map_eq_some_iff.mp hrow
        obtain rfl : id' = k.inboundId C := hid
        exact (hid'.symm.trans hq.admits.1).symm
      | promote p =>
        change (if _ then some (p.inboundRow before) else none) = some row at hrow
        split_ifs at hrow
        obtain rfl := Option.some.inj hrow
        have hid' : p.inboundId = k.inboundId C := hid
        exact hid' ▸ hq.inboundId
      | _ => cases hrow
    obtain ⟨k', hk', hid'⟩ := Option.map_eq_some_iff.mp hmap
    rw [hk', Identity.inboundId_injective hid']
  have hwrites : e.stmt.writesRow = true := by
    obtain ⟨caller, q, a, reply, before, after⟩ := e
    cases q with
    | persist batch | promote p => rfl
    | _ => cases hrow
  cases c with
  | receive r depth =>
    exact ⟨r, ⟨hidentity r hissued, depth, prog, ht⟩, hissued⟩
  | _ =>
    generalize e.stmt = q at hissued hwrites
    cases q with
    | persist | promote => exact hissued.elim
    | _ => simp [Stmt.writesRow] at hwrites

/-- What a receive has executed, it has issued. -/
lemma issued_of_receives {g : Config lang Store Call.Result}
    (h : (inboundService C k).Reachable (withinDay (k.inboundId C)) g) {e : Event lang Store}
    (he : e ∈ g.world.trace) {r : Request} (hr : Receives k g e.caller r) :
    IssuedBy C r e.stmt := by
  obtain ⟨⟨c, prog⟩, ht, hissued⟩ := System.caller_of_event (S := inboundService C k)
    (P := fun c q => c.Issued C q) (fun c _ => call_issued c) h e he
  obtain ⟨-, depth, prog', ht'⟩ := hr
  obtain rfl : c = .receive r depth := (Thread.mk.inj (Option.some.inj (ht.symm.trans ht'))).1
  exact hissued

lemma Receives.unique {g : Config lang Store Call.Result} {i : ℕ} {r r' : Request}
    (h : Receives k g i r) (h' : Receives k g i r') : r = r' := by
  obtain ⟨-, depth, prog, ht⟩ := h
  obtain ⟨-, depth', prog', ht'⟩ := h'
  have hcall := (Thread.mk.inj (Option.some.inj (ht.symm.trans ht'))).1
  exact (Call.receive.inj hcall).1

lemma receivedOnce_of_reachable {g : Config lang Store Call.Result}
    (h : (inboundService C k).Reachable (withinDay (k.inboundId C)) g) : ReceivedOnce C k g := by
  obtain ⟨hinv, hdelivers⟩ := idInv_of_reachable h
  have heffect := effect_of_reachable h
  have hreturns : ∀ i r depth sent, CameTo k g i r depth (.ok sent) →
      Returns C (k.inboundId C) r i sent g.world :=
    fun i r depth sent hi => hdelivers i r depth (.ok sent) hi ⟨k, hi.1, rfl⟩
  constructor
  case once => exact hinv.once
  case admission =>
    intro e he
    obtain ⟨r, hr, hissued⟩ := receives_of_admission h he
    obtain ⟨hmem, row, hrow, -⟩ := mem_admissions.mp he
    exact ⟨r, hr, (heffect e hmem).1 r row hissued hrow⟩
  case rest =>
    intro e he hnot r hr
    refine (heffect e he).2 r k (issued_of_receives h he hr) hr.1 fun row hrow hid => ?_
    exact hnot (mem_admissions.mpr ⟨he, row, hrow, hid⟩)
  case returned =>
    intro i r depth sent hi
    obtain ⟨e, he, row, hrow, hmessage, hresponse, hfingerprint⟩ :=
      (hreturns i r depth sent hi).admission
    refine ⟨e, he, row, hrow, hmessage, hresponse, fun r' hr' => ?_⟩
    have hmem := (mem_admissions.mp he).1
    obtain ⟨-, row', hrow', hfingerprint', -⟩ :=
      (heffect e hmem).1 r' row (issued_of_receives h hmem hr') hrow
    obtain rfl : row = row' := Option.some.inj (hrow.symm.trans hrow')
    exact Payload.inboundFingerprint_injective (hfingerprint.symm.trans hfingerprint')
  case same =>
    intro i r depth sent i' r' depth' sent' hi hi'
    obtain ⟨e, he, row, hrow, hmessage, -⟩ := (hreturns i r depth sent hi).admission
    obtain ⟨e', he', row', hrow', hmessage', -⟩ := (hreturns i' r' depth' sent' hi').admission
    obtain rfl := eq_of_mem_of_length_le_one hinv.once he he'
    obtain rfl : row = row' := Option.some.inj (hrow.symm.trans hrow')
    exact Option.some.inj (hmessage.symm.trans hmessage')
  case ends =>
    intro i r depth hi
    exact hdelivers i r depth (.error .unfinished) hi ⟨k, hi.1, rfl⟩ rfl

lemma settledSince_of_run {g g' : Config lang Store Call.Result}
    (h : (inboundService C k).Reachable (withinDay (k.inboundId C)) g)
    (hrun : Relation.ReflTransGen ((inboundService C k).Step (withinDay (k.inboundId C))) g g') :
    SettledSince C k g g' := by
  intro hpruned
  have hlater := laterOn_of_run h hrun
  have hreach := h.run _ _ hrun
  obtain ⟨hinv, hdelivers⟩ := idInv_of_reachable hreach
  refine ⟨?_, fun i r depth sent hi hdone => ?_⟩
  · -- The row of the first admission is there, so that there is no second one.
    obtain ⟨hinvBefore, -⟩ := idInv_of_reachable h
    obtain ⟨row, hrow, hid, -⟩ := hpruned
    obtain ⟨e, he, -⟩ := hinvBefore.bound row hrow hid
    obtain ⟨newer, htrace, -⟩ := hlater.newer
    have happend : admissions (k.inboundId C) g'.world.trace =
        admissions (k.inboundId C) newer ++ admissions (k.inboundId C) g.world.trace := by
      rw [admissions, htrace, List.filter_append]
      rfl
    have hlen := hinv.once
    have hpos := List.length_pos_of_mem he
    rw [happend, List.length_append] at hlen
    have hnewer : admissions (k.inboundId C) newer = [] :=
      List.eq_nil_iff_length_eq_zero.mpr (by omega)
    rw [happend, hnewer, List.nil_append]
  · obtain ⟨-, e, he, hlive⟩ := hdelivers i r depth (.ok sent) hdone ⟨k, hdone.1, rfl⟩
    exact hlive ((LaterOn.of_new h hlater hi e he).pruned hpruned)

/-- **An inbound message is admitted once.**  In every run within the day of an identity, one
statement of its receives at most admits a message, under the registration it was authenticated by;
every receive that returns gives that message and carried its payload; and once the message was
pruned, no receive made later returns or admits. -/
theorem receive_once {g g' : Config lang Store Call.Result}
    (h : (inboundService C k).Reachable (withinDay (k.inboundId C)) g)
    (hrun : Relation.ReflTransGen ((inboundService C k).Step (withinDay (k.inboundId C))) g g') :
    ReceivedOnce C k g ∧ SettledSince C k g g' :=
  ⟨receivedOnce_of_reachable h, settledSince_of_run h hrun⟩

/-! ## Runs -/

/-- A text is its own digest. -/
def plainCrypto : Crypto := ⟨⟨String.ofList, fun _ _ => String.ofList_injective⟩⟩

/-- The proxy `remote` of the peer `peer`, and the agent it writes to. -/
def peeredStore (clock : Millis) : Store where
  inbound := .empty
  messages := .empty
  deliveries := .empty
  peers := Table.empty.insertOrIgnore ⟨"peer", "team", "remote", 0⟩
  agents := (Table.empty.insertOrIgnore ⟨"remote", "team", "remote", "token"⟩).insertOrIgnore
    ⟨"bob", "team", "bob", "bob"⟩
  conversations := [("dm", "dmch")]
  kv := fun _ => none
  clock := clock

/-- The identity of the external message `1`. -/
def externalOne : Identity := ⟨"team", "remote", "a2a:webhook", "1"⟩

/-- The peer writes `text` to `bob`, in the external message `1`. -/
def writesBob (text : String) (kv : Bool) : Request :=
  ⟨"team", "remote", "a2a:webhook", some "1", none, ⟨"bob", text, none⟩, "peer", "token", kv⟩

/-- Everything is answered, and ids are as given. -/
def answers (newId : String) : (q : Stmt) → q.Answer
  | .parallel => true
  | .now => ()
  | .generateId => newId
  | .kvPut .. | .kvDelete _ | .promote _ | .deleteInbound .. => Fate.commits
  | .resolveConversation .. => ((none : Option StorageError), "dm", "dmch")
  | .persist _ => (Fate.commits, true)
  | .sweepInbound _ => ([] : List InboundId)
  | .pruneMessages _ | .rotateToken .. | .addPeer _ | .removePeer _ => ()
  | .kvGet _ | .inbound _ | .resolveWorkspaceDeliveryPolicy | .recipient .. | .sender ..
  | .outcomes .. | .source _ => (none : Option StorageError)

/-- Call `i` executes so many statements. -/
def steps (i count : ℕ) (newId : String) : List (inboundService plainCrypto externalOne).Move :=
  List.replicate count (.exec i (answers newId))

/-- The message id a receive has come to, or its failure. -/
def outcome? (g : Config lang Store Call.Result) (i : ℕ) : Option (Except Failure MessageId) :=
  match g.threads[i]? with
  | some ⟨.receive _ _, some (.done outcome)⟩ => some (outcome.map (·.accepted.id))
  | _ => none

/-- Is every row of the identity within its day? -/
def unexpired (id : InboundId) (w : World lang Store) : Bool :=
  w.store.inbound.rows.all fun r => r.id != id || decide (w.store.clock < r.expiresAt)

lemma unexpired_iff {id : InboundId} {w : World lang Store} (h : unexpired id w = true) :
    Unexpired id w.store := by
  intro r hr hid
  have hrow := List.all_eq_true.mp h r hr
  simpa [hid] using hrow

/-- Two receives race for the batch, the loser starts over; a third has another text; then the
message is pruned. -/
def racedMoves : List (inboundService plainCrypto externalOne).Move :=
  [.start (.receive (writesBob "hello" true) 1), .start (.receive (writesBob "hello" false) 1)] ++
    steps 0 13 "m" ++ steps 1 9 "n" ++ steps 0 30 "m" ++ steps 1 10 "n" ++
    [.start (.receive (writesBob "goodbye" true) 1)] ++ steps 2 5 "o" ++
    [.start (.pruneMessages ["m"])] ++ steps 3 1 "o"

def racedRun : Config lang Store Call.Result :=
  (inboundService plainCrypto externalOne).runFrom (peeredStore 999) racedMoves

/-- One more receive comes after the prune. -/
def lateMoves : List (inboundService plainCrypto externalOne).Move :=
  [.start (.receive (writesBob "hello" true) 1)] ++ steps 4 5 "p"

def lateRun : Config lang Store Call.Result :=
  lateMoves.foldl (inboundService plainCrypto externalOne).play racedRun

lemma racedRun_reachable : (inboundService plainCrypto externalOne).Reachable
    (withinDay (externalOne.inboundId plainCrypto)) racedRun := by
  refine System.runFrom_reachable_of _ _ (fun r hr => absurd hr (Table.not_mem_empty r)) ?_
  refine System.allowsAll_of_passes _ (fun w i q h => unexpired_iff h) (fun _ _ => trivial) ?_
  decide +kernel

lemma lateRun_steps : Relation.ReflTransGen ((inboundService plainCrypto externalOne).Step
    (withinDay (externalOne.inboundId plainCrypto))) racedRun lateRun := by
  refine System.plays_steps _ _ ?_
  refine System.allowsAll_of_passes _ (fun w i q h => unexpired_iff h) (fun _ _ => trivial) ?_
  decide +kernel

/-- Both racing receives return the one message, another text is refused, and so is a retry after
the prune. -/
theorem receive_once_raced :
    (ReceivedOnce plainCrypto externalOne racedRun ∧
      SettledSince plainCrypto externalOne racedRun lateRun) ∧
    outcome? racedRun 0 = some (.ok "m") ∧ outcome? racedRun 1 = some (.ok "m") ∧
    outcome? racedRun 2 = some (.error reusedKey) ∧
    outcome? lateRun 4 = some (.error notRetained) := by
  refine ⟨receive_once racedRun_reachable lateRun_steps, ?_⟩
  decide +kernel

/-- The runs in which everything happens within 24 hours of every admission of the identity. -/
def withinDayOfAdmission (id : InboundId) : Regime lang Store Call where
  calls _ := True
  permits w _ _ := ∀ e ∈ admissions id w.trace, w.store.clock < e.before.clock + DAY
  crashes := True

/-- A message is admitted in the last millisecond of a second, and received again half a second
before its 24 hours are over. -/
def lateInDayMoves : List (inboundService plainCrypto externalOne).Move :=
  [.start (.receive (writesBob "hello" false) 1)] ++ steps 0 11 "m" ++
    [.drift (.tick 86399500), .start (.receive (writesBob "hello" false) 1)] ++ steps 1 30 "n"

def lateInDayRun : Config lang Store Call.Result :=
  (inboundService plainCrypto externalOne).runFrom (peeredStore 999) lateInDayMoves

/-- Within 24 hours of its admission, a message can be received twice. -/
theorem receive_again_within_day :
    ¬ ∀ g : Config lang Store Call.Result, (inboundService plainCrypto externalOne).Reachable
        (withinDayOfAdmission (externalOne.inboundId plainCrypto)) g →
      (admissions (externalOne.inboundId plainCrypto) g.world.trace).length ≤ 1 ∧
        ∀ i r depth sent i' r' depth' sent', CameTo externalOne g i r depth (.ok sent) →
          CameTo externalOne g i' r' depth' (.ok sent') → sent.accepted.id = sent'.accepted.id := by
  intro hclaim
  have hreach : (inboundService plainCrypto externalOne).Reachable
      (withinDayOfAdmission (externalOne.inboundId plainCrypto)) lateInDayRun := by
    refine System.runFrom_reachable_of _ _ (fun r hr => absurd hr (Table.not_mem_empty r)) ?_
    have hok : ∀ (w : World lang Store) (i : ℕ) (q : Stmt),
        (admissions (externalOne.inboundId plainCrypto) w.trace).all
          (fun e => decide (w.store.clock < e.before.clock + DAY)) = true →
        (withinDayOfAdmission (externalOne.inboundId plainCrypto)).permits w i q :=
      fun w _ _ h e he => of_decide_eq_true (List.all_eq_true.mp h e he)
    exact System.allowsAll_of_passes _ hok (fun _ _ => trivial) (by decide +kernel)
  have htwice : (admissions (externalOne.inboundId plainCrypto) lateInDayRun.world.trace).length =
      2 := by decide +kernel
  have honce := (hclaim lateInDayRun hreach).1
  omega

end Inbound
