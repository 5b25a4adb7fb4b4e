import Mathlib.Logic.Function.Basic
import Relaycast.Enrollment.Statements
import Relaycast.Interleaving.History

/-!
# Tokens under an idempotency key

A keyed enrollment derives its token from its request, so a request that is made again derives the
same token and recognises the row it has left.  What makes this safe is that a digest is written to
a row only if no row has ever held it: issued tokens are new, a keyed rotation writes over the proof
it presents, which is thereby gone, and a keyed first enrollment is stopped by the unique index
while its row still holds the token.  All four promises follow from this one fact (`not_held`).

The fact fails where a keyed enrollment that finds no row inserts one although its token has been
rotated away: its row may have been renamed since, and nothing remembers the token.  The runs
considered here leave this out, and with it the inserts of keyed requests that present a proof
(`recoverable`); `keyedEnrollment_reborn` is a run of the other kind.
-/

namespace Enrollment

open Relational Interleaving

/-- The tokens a keyed request derives. -/
def Crypto.replacementTokens (C : Crypto) (κ : KeyedRequest) : List Token :=
  C.replacementToken κ :: C.olderReplacementTokens κ

/-- What is assumed of the cryptography: digests are those of one token, derived tokens those of
one request, and issued tokens are new. -/
structure Crypto.Sound (C : Crypto) : Prop where
  sha256Hex : Function.Injective C.sha256Hex
  issued : Function.Injective C.issueCredential
  derived : ∀ κ κ' token, token ∈ C.replacementTokens κ → token ∈ C.replacementTokens κ' → κ = κ'
  apart : ∀ κ n, C.issueCredential n ∉ C.replacementTokens κ

/-- Nodes that were enrolled without a key. -/
structure EnrollInit (C : Crypto) (s : Store) : Prop where
  issued : ∀ r ∈ s.nodes, ∃ n < s.issued, r.tokenHash = C.sha256Hex (C.issueCredential n)
  unkeyed : ∀ r ∈ s.nodes, r.previousTokenExpiresAt = none

/-! ## What has been held -/

/-- The node has held the token digest. -/
def Held (w : World lang Store) (id : NodeId) (hash : Hash) : Prop :=
  (∃ r ∈ w.store.nodes, r.id = id ∧ r.tokenHash = hash) ∨
    ∃ e ∈ w.trace, ∃ r ∈ e.before.nodes, r.id = id ∧ r.tokenHash = hash

/-- The event takes the token digest off a row. -/
def Supersedes (e : Event lang Store) (hash : Hash) : Prop :=
  ∃ r ∈ e.before.nodes, ∃ r' ∈ e.after.nodes, r'.id = r.id ∧ r.tokenHash = hash ∧
    r'.tokenHash ≠ hash

/-- A rotation has taken the token digest off a row. -/
def Superseded (w : World lang Store) (hash : Hash) : Prop := ∃ e ∈ w.trace, Supersedes e hash

/-- The enrollment a statement writes. -/
def Stmt.attempt : Stmt → Option Attempt
  | .rotate e _ | .insert e => some e
  | _ => none

/-- The token an event issues. -/
def issuedBy : Event lang Store → Option Token
  | ⟨_, .issueCredential, _, (token : Token), _, _⟩ => some token
  | _ => none

/-- The runs in which a keyed request that presents a proof finds a row, one without a proof inserts
only while its token has not been rotated away, and whoever has lost a race reads the winner
before the window it has found open closes. -/
def recoverable : Regime lang Store Call where
  calls _ := True
  permits w _ q :=
    match q with
    | .insert e => e.authorization.keyedRecovery.isSome →
        e.authorization.expectedTokenHash = none ∧ ¬ Superseded w e.tokenHash
    | .winnerById _ now | .winnerByTokenHash _ now => ∀ r ∈ w.store.nodes, ∀ expiresAt,
        r.previousTokenExpiresAt = some expiresAt → now < toDate expiresAt →
          w.store.now < toDate expiresAt
    | _ => True
  crashes := True

/-! ## What is promised -/

/-- An enrollment under the keyed request has returned. -/
def ReturnedEnrolled (g : Config lang Store Call.Result) (i : ℕ) (κ : KeyedRequest)
    (enrolled : Enrolled) : Prop :=
  ∃ data admitted, g.threads[i]? = some ⟨.enrollNode data κ.currentNodeToken
    (some ⟨κ.idempotencyKeyHash, κ.requestDigest⟩) admitted, some (.done (.ok enrolled))⟩

/-- At an event, the row holds the token, the key and body binding, and exactly the retained proof,
inside its window, which closes a day after the row was given the token. -/
structure Replays (C : Crypto) (w : World lang Store) (κ : KeyedRequest) (enrolled : Enrolled)
    (e : Event lang Store) : Prop where
  mem : enrolled.node ∈ e.before.nodes
  token : enrolled.node.tokenHash = C.sha256Hex enrolled.token
  key : enrolled.node.rotationIdempotencyKeyHash = some κ.idempotencyKeyHash
  body : enrolled.node.rotationRequestDigest = some κ.requestDigest
  proof : enrolled.node.previousTokenHash = κ.currentNodeToken.map C.sha256Hex
  window : ∃ e' ∈ w.trace, ∃ row, e'.stmt.written e'.reply = some row ∧
    row.id = enrolled.node.id ∧ row.tokenHash = enrolled.node.tokenHash ∧
      e.before.now < e'.before.now + NODE_ROTATION_RECOVERY_TTL_MS

/-- Is the call one of `createNodeToken`? -/
def Call.isEnrollment : Call → Bool
  | .enrollNode .. | .agentNodeToken .. => true
  | _ => false

/-- The call may change the row: it presents the token the row holds, or it is made by the agent
whose canonical direct node this is. -/
def MayChange (C : Crypto) (c : Call) (r : NodeRow) : Prop :=
  (∃ data token key admitted, c = .enrollNode data (some token) key admitted ∧
    r.tokenHash = C.sha256Hex token) ∨
  ∃ agentId data, c = .agentNodeToken agentId data ∧ r.id = directNodeIdForAgent agentId

/-- What keyed enrollments promise. -/
structure KeyedSound (C : Crypto) (g : Config lang Store Call.Result) : Prop where
  /-- All calls that return for one keyed request return one token and name one row. -/
  same : ∀ i j κ enrolled enrolled', ReturnedEnrolled g i κ enrolled →
    ReturnedEnrolled g j κ enrolled' →
      enrolled.token = enrolled'.token ∧ enrolled.node.id = enrolled'.node.id
  /-- An enrollment changes a row only if it may. -/
  changed : ∀ e ∈ g.world.trace, ∀ t, g.threads[e.caller]? = some t → t.call.isEnrollment = true →
    ∀ r ∈ e.before.nodes, ∀ r' ∈ e.after.nodes, r'.id = r.id → r' ≠ r → MayChange C t.call r
  /-- A keyed result is written by the call, or replayed from the row. -/
  replayed : ∀ i κ enrolled, ReturnedEnrolled g i κ enrolled → ∃ e ∈ g.world.eventsOf i,
    e.stmt.written e.reply = some enrolled.node ∨ Replays C g.world κ enrolled e
  /-- A token that was rotated away is no row's token. -/
  superseded : ∀ hash, Superseded g.world hash → ∀ r ∈ g.world.store.nodes, r.tokenHash ≠ hash

/-! ## The invariant -/

/-- What every statement keeps. -/
structure KeyedInv (C : Crypto) (w : World lang Store) : Prop where
  /-- What was issued is counted, and to one call. -/
  counted : ∀ e ∈ w.trace, ∀ token, issuedBy e = some token →
    ∃ n < w.store.issued, C.issueCredential n = token
  issuer : ∀ e ∈ w.trace, ∀ e' ∈ w.trace, ∀ token, issuedBy e = some token →
    issuedBy e' = some token → e.caller = e'.caller
  /-- What is yet to be issued was never held. -/
  fresh : ∀ n, w.store.issued ≤ n → ∀ id, ¬ Held w id (C.sha256Hex (C.issueCredential n))
  /-- An issued token is held only where its own call has written it. -/
  own : ∀ e ∈ w.trace, ∀ token, issuedBy e = some token → ∀ id, Held w id (C.sha256Hex token) →
    ∃ e' ∈ w.trace, e'.caller = e.caller ∧ e'.stmt.attempt.isSome
  /-- A digest was held by one row only. -/
  one_row : ∀ id id' hash, Held w id hash → Held w id' hash → id = id'
  /-- What was held is held, or was rotated away; what was rotated away is not held. -/
  past : ∀ id hash, Held w id hash →
    (∃ r ∈ w.store.nodes, r.id = id ∧ r.tokenHash = hash) ∨ Superseded w hash
  gone : ∀ hash, Superseded w hash → ∀ r ∈ w.store.nodes, r.tokenHash ≠ hash
  /-- The token of a keyed rotation has replaced the proof it was authorized by. -/
  consumed : ∀ κ token, κ.currentNodeToken = some token → ∀ id,
    Held w id (C.sha256Hex (C.replacementToken κ)) → Superseded w (C.sha256Hex token)
  /-- Of the tokens of a request, only the current one is ever written. -/
  current : ∀ κ, ∀ token ∈ C.replacementTokens κ, ∀ id, Held w id (C.sha256Hex token) →
    token = C.replacementToken κ
  /-- A recovery window closes a day after the token was written. -/
  window : ∀ r ∈ w.store.nodes, ∀ expiresAt, r.previousTokenExpiresAt = some expiresAt →
    ∃ e ∈ w.trace, ∃ row, e.stmt.written e.reply = some row ∧ row.id = r.id ∧
      row.tokenHash = r.tokenHash ∧
        toDate expiresAt ≤ e.before.now + NODE_ROTATION_RECOVERY_TTL_MS
  /-- The clock only advances. -/
  clock : ∀ e ∈ w.trace, e.before.now ≤ w.store.now

/-- Call `i` was issued the token of this digest and has written none. -/
def Fresh (C : Crypto) (w : World lang Store) (i : ℕ) (hash : Hash) : Prop :=
  (∃ e ∈ w.eventsOf i, ∃ token, issuedBy e = some token ∧ C.sha256Hex token = hash) ∧
    ∀ e ∈ w.eventsOf i, e.stmt.attempt = none

/-- Where the token of an enrollment comes from: it was issued to the call, or derived for a
rotation of the presented proof, or for an insert while it has not been rotated away. -/
inductive Mints (C : Crypto) (w : World lang Store) (i : ℕ) (e : Attempt) : Stmt → Prop
  | issued {q : Stmt} (h : Fresh C w i e.tokenHash) : Mints C w i e q
  | rotation (κ : KeyedRequest) (token : Token) (existing : NodeRow)
      (hκ : κ.currentNodeToken = some token)
      (hhash : e.tokenHash = C.sha256Hex (C.replacementToken κ))
      (hproof : e.authorization.expectedTokenHash = some (C.sha256Hex token))
      (hdirect : e.authorization.directAgentId = none) : Mints C w i e (.rotate e existing)
  | create (κ : KeyedRequest) (hκ : κ.currentNodeToken = none)
      (hhash : e.tokenHash = C.sha256Hex (C.replacementToken κ))
      (hspent : ¬ Superseded w e.tokenHash) : Mints C w i e (.insert e)

/-- What a call may issue: an enrollment with a token of its own, at a time that has come. -/
structure Allowed (C : Crypto) (w : World lang Store) (i : ℕ) (q : Stmt) : Prop where
  mints : ∀ e, q.attempt = some e → Mints C w i e q
  clock : ∀ e, q.attempt = some e → e.now ≤ w.store.now

/-! ## One statement -/

section Step

variable {C : Crypto} {authority : Bool} {w : World lang Store} {i : ℕ} {q : Stmt} {a : q.Answer}

/-- How a row gets its token digest: it had it before, or the enrollment of the statement has
written it, over the row it has found or as a new row. -/
inductive TokenStep (authority : Bool) (q : Stmt) (reply : q.Reply) (s : Store) (r' : NodeRow) :
    Prop
  | kept (r : NodeRow) (hr : r ∈ s.nodes) (hid : r.id = r'.id) (htoken : r.tokenHash = r'.tokenHash)
      (hexpires : r.previousTokenExpiresAt = r'.previousTokenExpiresAt)
  | written (e : Attempt) (he : q.attempt = some e) (htoken : r'.tokenHash = e.tokenHash)
      (row : NodeRow) (hrow : q.written reply = some row) (hid : row.id = r'.id)
      (hrowtoken : row.tokenHash = r'.tokenHash)
      (hexpires : ∀ x, r'.previousTokenExpiresAt = some x → x = e.recoveryExpiresAt)
      (hwhere : (∃ existing, q = .rotate e existing ∧ ∃ r ∈ s.nodes, r.id = r'.id ∧
          e.rotatesWhere authority existing r = true) ∨
        (q = .insert e ∧ s.nodes.conflicts r' = false))

lemma tokenStep {s : Store} {r' : NodeRow} (hr' : r' ∈ (run C authority q a s).2.nodes) :
    TokenStep authority q (run C authority q a s).1 s r' := by
  rcases mem_run hr' with ⟨-, hold⟩ |
    ⟨⟨row, hrow, hid, htoken⟩, ⟨r, hr, p, f, hupdate, hp, rfl⟩ | ⟨hins, hfree⟩⟩
  · exact .kept r' hold rfl rfl rfl
  · cases q with
    | rotate e existing =>
      obtain ⟨rfl, rfl⟩ := Prod.mk.inj (Option.some.inj hupdate)
      refine .written e rfl (by simp [Attempt.rotated]) row hrow hid htoken (fun x hx => ?_)
        (.inl ⟨existing, rfl, r, hr, by simp [Attempt.rotated], hp⟩)
      have hx : (e.keyedRotation existing).map (fun _ => e.recoveryExpiresAt) = some x := by
        rw [← hx]
        simp only [nodesAdvanceLivenessRevision]
        split <;> rfl
      obtain ⟨-, -, rfl⟩ := Option.map_eq_some_iff.mp hx
      rfl
    | registerBroker id message =>
      obtain ⟨rfl, rfl⟩ := Prod.mk.inj (Option.some.inj hupdate)
      exact .kept r hr rfl rfl rfl
    | registerDirect | refreshAggregate | heartbeatDirect | markOffline =>
      obtain ⟨rfl, rfl⟩ := Prod.mk.inj (Option.some.inj hupdate)
      refine .kept r hr (Stmt.update_id hupdate r).symm ?_ ?_
      · rw [nodesAdvanceLivenessRevision_tokenHash]
        rfl
      · simp only [nodesAdvanceLivenessRevision]
        split <;> rfl
    | _ => simp [Stmt.update] at hupdate
  · cases q with
    | insert e =>
      obtain rfl := Option.some.inj hins
      refine .written e rfl rfl row hrow hid htoken (fun x hx => ?_) (.inr ⟨rfl, hfree⟩)
      obtain ⟨-, -, rfl⟩ := Option.map_eq_some_iff.mp hx
      rfl
    | _ => simp [Stmt.inserts] at hins

/-- The statement writes the token of the enrollment to the node: over a row it has found, or as a
row whose token no other holds. -/
def WritesTo (authority : Bool) (w : World lang Store) (q : Stmt) (e : Attempt) (id : NodeId) :
    Prop :=
  (∃ existing, q = .rotate e existing ∧ ∃ r ∈ w.store.nodes, r.id = id ∧
    e.rotatesWhere authority existing r = true) ∨
  (q = .insert e ∧ ∀ r ∈ w.store.nodes, r.tokenHash ≠ e.tokenHash)

lemma WritesTo.attempt {e : Attempt} {id : NodeId} (h : WritesTo authority w q e id) :
    q.attempt = some e := by
  rcases h with ⟨existing, rfl, -⟩ | ⟨rfl, -⟩ <;> rfl

/-- Whoever rotates by proof finds the proof on the row. -/
lemma Attempt.tokenHash_of_rotatesWhere {e : Attempt} {existing r : NodeRow} {token : Token}
    (h : e.rotatesWhere authority existing r = true)
    (hproof : e.authorization.expectedTokenHash = some (C.sha256Hex token))
    (hdirect : e.authorization.directAgentId = none) : r.tokenHash = C.sha256Hex token := by
  simp only [rotatesWhere, hasPresentedTokenProof, authorizedDirectNode, hproof, hdirect,
    Option.isSome_some, Option.any_none, Bool.not_true, Bool.false_and, Bool.false_or,
    Bool.and_eq_true, beq_iff_eq] at h
  exact Option.some.inj h.2

variable (hC : C.Sound) (hw : KeyedInv C w) (hq : Allowed C w i q)

include hw hq in
/-- **What is written was never held.** -/
lemma not_held {e : Attempt} {id : NodeId} (h : WritesTo authority w q e id) (id' : NodeId) :
    ¬ Held w id' e.tokenHash := by
  intro hheld
  cases hq.mints e h.attempt with
  | issued hfresh =>
    obtain ⟨⟨e', he', token, hissued, hhash⟩, hnone⟩ := hfresh
    obtain ⟨hmem, hcaller⟩ := World.mem_eventsOf.mp he'
    obtain ⟨e'', hmem'', hcaller'', hattempt⟩ := hw.own e' hmem token hissued id' (hhash ▸ hheld)
    have hown := hnone e'' (World.mem_eventsOf.mpr ⟨hmem'', hcaller''.trans hcaller⟩)
    simp [hown] at hattempt
  | rotation κ token existing hκ hhash hproof hdirect =>
    rcases h with ⟨existing', heq, r, hr, -, hwhere⟩ | ⟨heq, -⟩
    · have hspent := hw.consumed κ token hκ id' (hhash ▸ hheld)
      exact hw.gone _ hspent r hr (Attempt.tokenHash_of_rotatesWhere hwhere hproof hdirect)
    · simp at heq
  | create κ hκ hhash hspent =>
    rcases h with ⟨existing', heq, -⟩ | ⟨-, hfree⟩
    · simp at heq
    · rcases hw.past id' _ hheld with ⟨r, hr, -, htoken⟩ | hgone
      · exact hfree r hr htoken
      · exact hspent hgone

/-- What a statement adds to what was held. -/
lemma held_after {id : NodeId} {hash : Hash}
    (h : Held (w.after (machine C authority) i q a) id hash) :
    Held w id hash ∨ ∃ e, WritesTo authority w q e id ∧ e.tokenHash = hash := by
  rcases h with ⟨r', hr', rfl, rfl⟩ | ⟨e', he', r, hr, hrest⟩
  · cases tokenStep hr' with
    | kept r hr hid htoken => exact .inl (.inl ⟨r, hr, hid, htoken⟩)
    | written e he htoken row hrow hid hrowtoken hexpires hwhere =>
      refine .inr ⟨e, ?_, htoken.symm⟩
      rcases hwhere with hrotate | ⟨hinsert, hfree⟩
      · exact .inl hrotate
      · refine .inr ⟨hinsert, fun r hr hsame => ?_⟩
        have hclash := List.any_eq_false.mp hfree r hr
        simp [clash, key, htoken, hsame] at hclash
  · rcases List.mem_cons.mp he' with rfl | he'
    · exact .inl (.inl ⟨r, hr, hrest⟩)
    · exact .inl (.inr ⟨e', he', r, hr, hrest⟩)

lemma Held.after {id : NodeId} {hash : Hash} (h : Held w id hash) :
    Held (w.after (machine C authority) i q a) id hash := by
  rcases h with hnow | ⟨e, he, hrest⟩
  · exact .inr ⟨_, List.mem_cons_self, hnow⟩
  · exact .inr ⟨e, List.mem_cons_of_mem _ he, hrest⟩

lemma Superseded.after {hash : Hash} (h : Superseded w hash) :
    Superseded (w.after (machine C authority) i q a) hash := by
  obtain ⟨e, he, hrest⟩ := h
  exact ⟨e, List.mem_cons_of_mem _ he, hrest⟩

/-- What was superseded had been held. -/
lemma Superseded.held {hash : Hash} (h : Superseded w hash) : ∃ id, Held w id hash := by
  obtain ⟨e, he, r, hr, -, -, -, hhash, -⟩ := h
  exact ⟨r.id, .inr ⟨e, he, r, hr, rfl, hhash⟩⟩

/-- What an event issues is the next token. -/
lemma issuedBy_event {token : Token} (h : issuedBy (w.event (machine C authority) i q a) = some token) :
    q = .issueCredential ∧ C.issueCredential w.store.issued = token := by
  cases q with
  | issueCredential => exact ⟨rfl, Option.some.inj h⟩
  | _ => simp [issuedBy, World.event] at h

variable (C authority a) in
lemma run_issued (s : Store) :
    (q = .issueCredential ∧ (run C authority q a s).2.issued = s.issued + 1) ∨
      (q ≠ .issueCredential ∧ (run C authority q a s).2.issued = s.issued) := by
  cases q with
  | issueCredential => exact .inl ⟨rfl, rfl⟩
  | insert e =>
    refine .inr ⟨by simp, ?_⟩
    rcases s.insertNode_cases (e.inserted a) with ⟨-, hs⟩ | ⟨_, -, hs⟩
    · exact congrArg Store.issued hs
    · exact (congrArg Store.issued hs :)
  | rotate | registerDirect | registerBroker | refreshAggregate | heartbeatDirect | markOffline =>
    refine .inr ⟨by simp, ?_⟩
    simp only [run, Store.updateLiveness, Store.updateNode]
    split
    · rfl
    · split <;> rfl
  | _ => exact .inr ⟨by simp, rfl⟩

lemma run_now (s : Store) : (run C authority q a s).2.now = s.now := by
  cases q with
  | insert e =>
    rcases s.insertNode_cases (e.inserted a) with ⟨-, hs⟩ | ⟨_, -, hs⟩
    · exact congrArg Store.now hs
    · exact (congrArg Store.now hs :)
  | rotate | registerDirect | registerBroker | refreshAggregate | heartbeatDirect | markOffline =>
    simp only [run, Store.updateLiveness, Store.updateNode]
    split
    · rfl
    · split <;> rfl
  | _ => rfl

include hC hw hq in
/-- **One statement keeps the invariant.** -/
lemma keyedInv_after : KeyedInv C (w.after (machine C authority) i q a) := by
  have hnew : ∀ token, issuedBy (w.event (machine C authority) i q a) = some token →
      q = .issueCredential ∧ C.issueCredential w.store.issued = token := fun _ => issuedBy_event
  have hle : w.store.issued ≤ (run C authority q a w.store).2.issued := by
    rcases run_issued C authority a w.store with ⟨-, h⟩ | ⟨-, h⟩ <;> omega
  have hone : ∀ e id id', WritesTo authority w q e id →
      Held (w.after (machine C authority) i q a) id' e.tokenHash →
        ∃ r ∈ (run C authority q a w.store).2.nodes, r.id = id' ∧ r.tokenHash = e.tokenHash := by
    intro e id id' hwrites hheld
    rcases hheld with hnow | ⟨e', he', r, hr, hid, hhash⟩
    · exact hnow
    · refine absurd ?_ (not_held hw hq hwrites r.id)
      rcases List.mem_cons.mp he' with rfl | he'
      · exact .inl ⟨r, hr, rfl, hhash⟩
      · exact .inr ⟨e', he', r, hr, rfl, hhash⟩
  refine
    { counted := fun e he token hissued => ?_
      issuer := fun e he e' he' token hissued hissued' => ?_
      fresh := fun n hn id hheld => ?_
      own := fun e he token hissued id hheld => ?_
      one_row := fun id id' hash hheld hheld' => ?_
      past := fun id hash hheld => ?_
      gone := fun hash hspent r' hr' hhash => ?_
      consumed := fun κ token hκ id hheld => ?_
      current := fun κ token htoken id hheld => ?_
      window := fun r' hr' expiresAt hexpires => ?_
      clock := fun e he => ?_ }
  · -- counted
    rcases List.mem_cons.mp he with rfl | he
    · obtain ⟨rfl, rfl⟩ := hnew token hissued
      exact ⟨w.store.issued, Nat.lt_succ_self _, rfl⟩
    · obtain ⟨n, hn, htoken⟩ := hw.counted e he token hissued
      exact ⟨n, lt_of_lt_of_le hn hle, htoken⟩
  · -- issuer
    have hother : ∀ e ∈ w.trace, issuedBy e = some token →
        issuedBy (w.event (machine C authority) i q a) ≠ some token := by
      intro e he hold hlatest
      obtain ⟨n, hn, htoken⟩ := hw.counted e he token hold
      obtain ⟨-, htoken'⟩ := hnew token hlatest
      have heq := hC.issued (htoken.trans htoken'.symm)
      omega
    rcases List.mem_cons.mp he with rfl | he <;> rcases List.mem_cons.mp he' with rfl | he'
    · rfl
    · exact absurd hissued (hother e' he' hissued')
    · exact absurd hissued' (hother e he hissued)
    · exact hw.issuer e he e' he' token hissued hissued'
  · -- fresh
    have hn : (run C authority q a w.store).2.issued ≤ n := hn
    rcases held_after hheld with hold | ⟨e, hwrites, hhash⟩
    · exact hw.fresh n (hle.trans hn) id hold
    · cases hq.mints e hwrites.attempt with
      | issued hfresh =>
        obtain ⟨⟨e', he', token, hissued, hsha⟩, -⟩ := hfresh
        obtain ⟨m, hm, rfl⟩ := hw.counted e' (World.mem_eventsOf.mp he').1 token hissued
        have heq := hC.issued (hC.sha256Hex (hsha.trans hhash))
        omega
      | rotation κ token existing hκ hsha =>
        exact hC.apart κ n (hC.sha256Hex (hsha.symm.trans hhash) ▸ List.mem_cons_self)
      | create κ hκ hsha =>
        exact hC.apart κ n (hC.sha256Hex (hsha.symm.trans hhash) ▸ List.mem_cons_self)
  · -- own
    have hfound : Held w id (C.sha256Hex token) → e ∈ w.trace → ∃ e' ∈ w.trace,
        e'.caller = e.caller ∧ e'.stmt.attempt.isSome :=
      fun hold hmem => hw.own e hmem token hissued id hold
    rcases List.mem_cons.mp he with rfl | hearlier
    · obtain ⟨rfl, rfl⟩ := hnew token hissued
      rcases held_after hheld with hold | ⟨e, hwrites, -⟩
      · exact absurd hold (hw.fresh _ le_rfl id)
      · exact absurd hwrites.attempt (by simp [Stmt.attempt])
    · rcases held_after hheld with hold | ⟨e', hwrites, hhash⟩
      · obtain ⟨e', he', hrest⟩ := hfound hold hearlier
        exact ⟨e', List.mem_cons_of_mem _ he', hrest⟩
      · refine ⟨_, List.mem_cons_self, ?_, by simp [hwrites.attempt]⟩
        cases hq.mints e' hwrites.attempt with
        | issued hfresh =>
          obtain ⟨⟨e'', he'', token', hissued', hsha⟩, -⟩ := hfresh
          obtain ⟨hmem'', rfl⟩ := World.mem_eventsOf.mp he''
          obtain rfl := hC.sha256Hex (hsha.trans hhash)
          exact hw.issuer e'' hmem'' e hearlier token' hissued' hissued
        | rotation κ _ existing hκ hsha =>
          obtain ⟨n, -, rfl⟩ := hw.counted e hearlier token hissued
          exact absurd (hC.sha256Hex (hsha.symm.trans hhash) ▸ List.mem_cons_self) (hC.apart κ n)
        | create κ hκ hsha =>
          obtain ⟨n, -, rfl⟩ := hw.counted e hearlier token hissued
          exact absurd (hC.sha256Hex (hsha.symm.trans hhash) ▸ List.mem_cons_self) (hC.apart κ n)
  · -- one_row
    have hboth : ∀ id id', Held (w.after (machine C authority) i q a) id' hash →
        (∃ e, WritesTo authority w q e id ∧ e.tokenHash = hash) →
        Held (w.after (machine C authority) i q a) id hash → id = id' := by
      rintro id id' hheld' ⟨e, hwrites, rfl⟩ hheld
      obtain ⟨r, hr, rfl, hhash⟩ := hone e id id hwrites hheld
      obtain ⟨r', hr', rfl, hhash'⟩ := hone e _ id' hwrites hheld'
      rw [eq_of_tokenHash hr hr' (hhash.trans hhash'.symm)]
    rcases held_after hheld with hold | hwrites
    · rcases held_after hheld' with hold' | hwrites'
      · exact hw.one_row id id' hash hold hold'
      · exact (hboth id' id hheld hwrites' hheld').symm
    · exact hboth id id' hheld' hwrites hheld
  · -- past
    rcases held_after hheld with hold | ⟨e, hwrites, rfl⟩
    · rcases hw.past id hash hold with ⟨r, hr, rfl, rfl⟩ | hspent
      · obtain ⟨r', hr', hid, -⟩ := exists_mem_run (a := a) hr
        by_cases hsame : r'.tokenHash = r.tokenHash
        · exact .inl ⟨r', hr', hid, hsame⟩
        · exact .inr ⟨_, List.mem_cons_self, r, hr, r', hr', hid, rfl, hsame⟩
      · exact .inr hspent.after
    · exact .inl (hone e id id hwrites hheld)
  · -- gone
    have hheld : ∃ id, Held w id hash := by
      obtain ⟨e, he, r, hr, r'', hr'', hid, hr_hash, hne⟩ := hspent
      rcases List.mem_cons.mp he with rfl | he
      · exact ⟨r.id, .inl ⟨r, hr, rfl, hr_hash⟩⟩
      · exact ⟨r.id, .inr ⟨e, he, r, hr, rfl, hr_hash⟩⟩
    cases tokenStep hr' with
    | kept r₀ hr₀ hid₀ htoken₀ =>
      obtain ⟨e, he, r, hr, r'', hr'', hid, hr_hash, hne⟩ := hspent
      rcases List.mem_cons.mp he with rfl | he
      · have hsame : r₀ = r := eq_of_tokenHash hr₀ hr (htoken₀.trans (hhash.trans hr_hash.symm))
        have hrow : r' = r'' := eq_of_id hr' hr'' (hid₀.symm.trans (hsame ▸ hid.symm))
        exact hne (hrow ▸ hhash)
      · exact hw.gone hash ⟨e, he, r, hr, r'', hr'', hid, hr_hash, hne⟩ r₀ hr₀
          (htoken₀.trans hhash)
    | written e he htoken row hrow hid hrowtoken hexpires hwhere =>
      obtain ⟨id, hheld⟩ := hheld
      have hwrites : ∃ id, WritesTo authority w q e id := by
        rcases hwhere with hrotate | ⟨rfl, hfree⟩
        · exact ⟨_, .inl hrotate⟩
        · refine ⟨r'.id, .inr ⟨rfl, fun r hr hsame => ?_⟩⟩
          have hclash := List.any_eq_false.mp hfree r hr
          simp [clash, key, htoken, hsame] at hclash
      obtain ⟨id', hwrites⟩ := hwrites
      exact not_held hw hq hwrites id (by rw [← htoken, hhash]; exact hheld)
  · -- consumed
    rcases held_after hheld with hold | ⟨e, hwrites, hhash⟩
    · exact (hw.consumed κ token hκ id hold).after
    · cases hq.mints e hwrites.attempt with
      | issued hfresh =>
        obtain ⟨⟨e', he', token', hissued, hsha⟩, -⟩ := hfresh
        obtain ⟨m, -, rfl⟩ := hw.counted e' (World.mem_eventsOf.mp he').1 token' hissued
        exact absurd (hC.sha256Hex (hsha.trans hhash) ▸ List.mem_cons_self) (hC.apart κ m)
      | rotation κ' token' existing hκ' hsha hproof hdirect =>
        have hreq : κ' = κ := hC.derived κ' κ (C.replacementToken κ') List.mem_cons_self
          (hC.sha256Hex (hsha.symm.trans hhash) ▸ List.mem_cons_self)
        subst hreq
        obtain rfl : token' = token := Option.some.inj (hκ'.symm.trans hκ)
        have hrow := hwrites
        rcases hrow with ⟨existing', heq, r, hr, hid, hwhere⟩ | ⟨heq, -⟩
        · obtain ⟨-, rfl⟩ := Stmt.rotate.inj heq
          have hold := Attempt.tokenHash_of_rotatesWhere hwhere hproof hdirect
          obtain ⟨r', hr', rfl, hhash'⟩ := hone e id id hwrites (hhash ▸ hheld)
          refine ⟨_, List.mem_cons_self, r, hr, r', hr', hid.symm, hold, fun hsame => ?_⟩
          refine not_held hw hq hwrites r.id (.inl ⟨r, hr, rfl, ?_⟩)
          rw [hold, ← hsame, hhash']
        · simp at heq
      | create κ' hκ' hsha =>
        have hreq : κ' = κ := hC.derived κ' κ (C.replacementToken κ') List.mem_cons_self
          (hC.sha256Hex (hsha.symm.trans hhash) ▸ List.mem_cons_self)
        rw [hreq, hκ] at hκ'
        simp at hκ'
  · -- current
    rcases held_after hheld with hold | ⟨e, hwrites, hhash⟩
    · exact hw.current κ token htoken id hold
    · have hderived : ∀ κ', e.tokenHash = C.sha256Hex (C.replacementToken κ') →
          token = C.replacementToken κ := by
        intro κ' hsha
        have htoken' := hC.sha256Hex (hsha.symm.trans hhash)
        have hreq : κ' = κ := hC.derived κ' κ token (htoken' ▸ List.mem_cons_self) htoken
        rw [← htoken', hreq]
      cases hq.mints e hwrites.attempt with
      | issued hfresh =>
        obtain ⟨⟨e', he', token', hissued, hsha⟩, -⟩ := hfresh
        obtain ⟨m, -, rfl⟩ := hw.counted e' (World.mem_eventsOf.mp he').1 token' hissued
        exact absurd (hC.sha256Hex (hsha.trans hhash) ▸ htoken) (hC.apart κ m)
      | rotation κ' token' existing hκ' hsha => exact hderived κ' hsha
      | create κ' hκ' hsha => exact hderived κ' hsha
  · -- window
    cases tokenStep hr' with
    | kept r hr hid htoken hold =>
      obtain ⟨e, he, row, hrow, hrid, hrtoken, hle⟩ :=
        hw.window r hr expiresAt (hold.trans hexpires)
      exact ⟨e, List.mem_cons_of_mem _ he, row, hrow, hrid.trans hid, hrtoken.trans htoken, hle⟩
    | written e he htoken row hrow hid hrowtoken hwindow =>
      refine ⟨_, List.mem_cons_self, row, hrow, hid, hrowtoken, ?_⟩
      obtain rfl := hwindow expiresAt hexpires
      have hclock := hq.clock e he
      have hdiv := Nat.div_mul_le_self (e.now + NODE_ROTATION_RECOVERY_TTL_MS) 1000
      show (e.now + NODE_ROTATION_RECOVERY_TTL_MS) / 1000 * 1000 ≤
        w.store.now + NODE_ROTATION_RECOVERY_TTL_MS
      exact hdiv.trans (Nat.add_le_add_right hclock _)
  · -- clock
    have hnow : (w.after (machine C authority) i q a).store.now = w.store.now := run_now w.store
    rw [hnow]
    rcases List.mem_cons.mp he with rfl | he
    · exact le_rfl
    · exact hw.clock e he

end Step

/-! ## What a call knows -/

/-- What is never taken back. -/
structure KeyedGrows (w w' : World lang Store) : Prop where
  held : ∀ id hash, Held w id hash → Held w' id hash
  events : ∀ e ∈ w.trace, e ∈ w'.trace
  clock : w.store.now ≤ w'.store.now

lemma KeyedGrows.refl (w : World lang Store) : KeyedGrows w w :=
  ⟨fun _ _ h => h, fun _ h => h, le_rfl⟩

lemma KeyedGrows.trans {w₁ w₂ w₃ : World lang Store} (h : KeyedGrows w₁ w₂)
    (h' : KeyedGrows w₂ w₃) : KeyedGrows w₁ w₃ where
  held id hash hheld := h'.held id hash (h.held id hash hheld)
  events e he := h'.events e (h.events e he)
  clock := h.clock.trans h'.clock

/-- What the calls share. -/
def keyedShared (C : Crypto) : Shared lang Store where
  inv := KeyedInv C
  grows := KeyedGrows
  refl := .refl
  trans _ _ _ := .trans

/-- The call has written nothing, and the token is issued to it or derived from its request. -/
structure Holding (w : World lang Store) (i : ℕ) (authorization : Authorization) (token : Token) :
    Prop where
  nothing : ∀ e ∈ w.eventsOf i, e.stmt.attempt = none
  issued : authorization.keyedRecovery = none → ∃ e ∈ w.eventsOf i, issuedBy e = some token
  derived : ∀ recovery, authorization.keyedRecovery = some recovery →
    token = recovery.replacementToken

/-- When the recovery window of a row closes. -/
def WindowOf (w : World lang Store) (r : NodeRow) : Prop :=
  ∀ expiresAt, r.previousTokenExpiresAt = some expiresAt → ∃ e ∈ w.trace, ∃ row,
    e.stmt.written e.reply = some row ∧ row.id = r.id ∧ row.tokenHash = r.tokenHash ∧
      toDate expiresAt ≤ e.before.now + NODE_ROTATION_RECOVERY_TTL_MS

/-- The call has read the row. -/
structure Seen (w : World lang Store) (i : ℕ) (r : NodeRow) : Prop where
  read : ∃ e ∈ w.eventsOf i, r ∈ e.before.nodes
  held : Held w r.id r.tokenHash
  window : WindowOf w r

/-- The call holds its token and has read the rows. -/
structure Reading (w : World lang Store) (i : ℕ) (authorization : Authorization) (token : Token)
    (rows : List NodeRow) : Prop where
  holding : Holding w i authorization token
  seen : ∀ r ∈ rows, Seen w i r

section Calls

variable {C : Crypto} {authority : Bool} {w w' : World lang Store} {i : ℕ}
  {authorization : Authorization} {token : Token} {rows : List NodeRow}

variable (C authority)

/-- A step of a call, as its own history sees it. -/
lemma mem_eventsOf_after (hown : w'.eventsOf i = w.eventsOf i) {q : Stmt} {a : q.Answer}
    {e : Event lang Store} (he : e ∈ w.eventsOf i) :
    e ∈ (w'.after (machine C authority) i q a).eventsOf i := by
  rw [World.eventsOf_after_self, hown]
  exact List.mem_cons_of_mem _ he

lemma keyedGrows_after (q : Stmt) (a : q.Answer) :
    KeyedGrows w (w.after (machine C authority) i q a) where
  held _ _ h := h.after
  events _ he := List.mem_cons_of_mem _ he
  clock := le_of_eq (run_now w.store).symm

lemma WindowOf.mono {r : NodeRow} (h : WindowOf w r) (hgrows : KeyedGrows w w') : WindowOf w' r := by
  intro expiresAt hexpires
  obtain ⟨e, he, hrest⟩ := h expiresAt hexpires
  exact ⟨e, hgrows.events e he, hrest⟩

lemma Holding.after (h : Holding w i authorization token) (hown : w'.eventsOf i = w.eventsOf i)
    {q : Stmt} (hq : q.attempt = none) (a : q.Answer) :
    Holding (w'.after (machine C authority) i q a) i authorization token where
  nothing e he := by
    rw [World.eventsOf_after_self, hown] at he
    rcases List.mem_cons.mp he with rfl | he
    · exact hq
    · exact h.nothing e he
  issued hkey := by
    obtain ⟨e, he, hissued⟩ := h.issued hkey
    exact ⟨e, mem_eventsOf_after C authority hown he, hissued⟩
  derived := h.derived

lemma Seen.after {r : NodeRow} (h : Seen w i r) (hown : w'.eventsOf i = w.eventsOf i)
    (hgrows : KeyedGrows w w') (q : Stmt) (a : q.Answer) :
    Seen (w'.after (machine C authority) i q a) i r := by
  have hgrows' := hgrows.trans (keyedGrows_after C authority (i := i) q a)
  obtain ⟨e, he, hr⟩ := h.read
  exact ⟨⟨e, mem_eventsOf_after C authority hown he, hr⟩, hgrows'.held _ _ h.held, h.window.mono hgrows'⟩

/-- What a call reads, it has seen. -/
lemma seen_of_mem {r : NodeRow} (hw : KeyedInv C w) (hr : r ∈ w.store.nodes) (q : Stmt)
    (a : q.Answer) : Seen (w.after (machine C authority) i q a) i r where
  read := ⟨_, World.event_mem_eventsOf _ _ _ _ _, hr⟩
  held := Held.after (.inl ⟨r, hr, rfl, rfl⟩)
  window := WindowOf.mono (hw.window r hr) (keyedGrows_after C authority q a)

lemma Reading.after (h : Reading w i authorization token rows)
    (hown : w'.eventsOf i = w.eventsOf i) (hgrows : KeyedGrows w w') {q : Stmt}
    (hq : q.attempt = none) (a : q.Answer) :
    Reading (w'.after (machine C authority) i q a) i authorization token rows :=
  ⟨h.holding.after C authority hown hq a,
    fun r hr => (h.seen r hr).after C authority hown hgrows q a⟩

/-- Call `i` is safe to run among keyed enrollments. -/
abbrev KeyedSafe (C : Crypto) (authority : Bool) (i : ℕ) {α : Type}
    (Q : α → World lang Store → Prop) (p : Prog lang α) (w : World lang Store) : Prop :=
  (keyedShared C).Safe (machine C authority) recoverable.permits i Q p w

variable {C authority} {α : Type} {Q : α → World lang Store → Prop} (hC : C.Sound)

include hC

/-- The rule of a statement. -/
lemma KeyedSafe.ask {q : Stmt} {f : q.Reply → Prog lang α}
    (h : ∀ w', w'.eventsOf i = w.eventsOf i → KeyedGrows w w' → KeyedInv C w' →
      recoverable.permits w' i q → Allowed C w' i q ∧ ∀ a : q.Answer,
        KeyedSafe C authority i Q (f (run C authority q a w'.store).1)
          (w'.after (machine C authority) i q a)) :
    KeyedSafe C authority i Q (await q >>= f) w := by
  refine Shared.Safe.ask fun w' hown hgrows hinv hperm a => ?_
  obtain ⟨hq, hf⟩ := h w' hown hgrows hinv hperm
  refine ⟨⟨keyedInv_after hC hinv hq, keyedGrows_after C authority q a⟩, fun r hr => ?_⟩
  subst hr
  exact hf a

/-- The rule of a statement that writes no enrollment. -/
lemma KeyedSafe.read {q : Stmt} {f : q.Reply → Prog lang α} (hq : q.attempt = none)
    (h : ∀ w', w'.eventsOf i = w.eventsOf i → KeyedGrows w w' → KeyedInv C w' →
      recoverable.permits w' i q → ∀ a : q.Answer,
        KeyedSafe C authority i Q (f (run C authority q a w'.store).1)
          (w'.after (machine C authority) i q a)) :
    KeyedSafe C authority i Q (await q >>= f) w :=
  .ask hC fun w' hown hgrows hinv hperm =>
    ⟨⟨fun e he => by simp [hq] at he, fun e he => by simp [hq] at he⟩,
      h w' hown hgrows hinv hperm⟩

/-- The rule of a read at the end of a function. -/
lemma KeyedSafe.last {q : Stmt} {Q : q.Reply → World lang Store → Prop} (hq : q.attempt = none)
    (h : ∀ w', w'.eventsOf i = w.eventsOf i → KeyedGrows w w' → KeyedInv C w' →
      recoverable.permits w' i q → ∀ a : q.Answer,
        Q (run C authority q a w'.store).1 (w'.after (machine C authority) i q a)) :
    KeyedSafe C authority i Q (await q) w := by
  have hbind : KeyedSafe C authority i Q (await q >>= Prog.done) w := .read hC hq h
  rwa [Prog.bind_done] at hbind

/-! ## Finding the row -/

/-- The call goes on to hold its token, and has read the row it has found besides. -/
abbrev Finds (i : ℕ) (authorization : Authorization) (token : Token) (rows : List NodeRow)
    (found : Option NodeRow) (w : World lang Store) : Prop :=
  Reading w i authorization token (found.toList ++ rows)

/-- The rule of a lookup by a unique column. -/
lemma KeyedSafe.lookup {q : Stmt} (hq : q.attempt = none) {p : NodeRow → Bool}
    (reply : Option NodeRow → q.Reply)
    (hreply : ∀ a s, (run C authority q a s).1 = reply (s.node? p)) {f : q.Reply → Prog lang α}
    (h : Reading w i authorization token rows)
    (hf : ∀ found w', Finds i authorization token rows found w' →
      KeyedSafe C authority i Q (f (reply found)) w') :
    KeyedSafe C authority i Q (await q >>= f) w := by
  refine .read hC hq fun w' hown hgrows hinv _ a => ?_
  have hafter := h.after C authority hown hgrows hq a
  rw [hreply]
  refine hf _ _ ⟨hafter.holding, fun r hr => ?_⟩
  rcases List.mem_append.mp hr with hr | hr
  · exact seen_of_mem C authority hinv (Store.mem_of_node? (Option.mem_toList.mp hr)).1 q a
  · exact hafter.seen r hr

lemma reusableMachineNode_safe (r : NodeRow) (h : Reading w i authorization token rows) :
    KeyedSafe C authority i (fun _ w => Reading w i authorization token rows)
      (reusableMachineNode authority r) w := by
  cases authority with
  | true =>
    exact .last (q := .inspect r.id) hC rfl fun w' hown hgrows _ _ a => h.after C _ hown hgrows rfl a
  | false => exact .read hC rfl fun w' hown hgrows _ _ a => h.after C _ hown hgrows rfl a

lemma firstReusable_safe (candidates rows : List NodeRow)
    (h : Reading w i authorization token (candidates ++ rows)) :
    KeyedSafe C authority i (fun found w =>
      Reading w i authorization token (found.toList ++ (candidates ++ rows)))
      (firstReusable authority candidates) w := by
  induction candidates generalizing w rows with
  | nil => exact h
  | cons r rs ih =>
    have h' : Reading w i authorization token (rs ++ (r :: rows)) :=
      ⟨h.holding, fun r' hr' => h.seen r' (by
        simp only [List.mem_append, List.mem_cons] at hr' ⊢
        tauto)⟩
    refine Shared.Safe.then (reusableMachineNode_safe hC r h') fun kept w₁ h₁ => ?_
    refine Shared.Safe.then (ih _ h₁) fun rest w₂ h₂ => ?_
    have hseen : ∀ r' ∈ (if kept then some r else rest).toList ++ (r :: rs ++ rows),
        Seen w₂ i r' := by
      intro r' hr'
      refine h₂.seen r' ?_
      split at hr' <;>
        simp only [Option.toList_some, List.mem_append, List.mem_cons, List.not_mem_nil] at hr' ⊢ <;>
        tauto
    exact ⟨h₂.holding, hseen⟩

lemma provenMachineNode_safe (machineId : String) (now : Millis) (expected : Option Hash)
    (h : Reading w i authorization token rows) :
    KeyedSafe C authority i (Finds i authorization token rows)
      (provenMachineNode authority machineId now expected) w := by
  cases expected with
  | none => exact h
  | some tokenHash =>
    refine .lookup (q := .provenCandidate machineId now tokenHash) hC rfl (fun found => found)
      (fun _ _ => rfl) h fun candidate w₁ h₁ => ?_
    cases candidate with
    | none => exact h₁
    | some r =>
      refine Shared.Safe.then (reusableMachineNode_safe hC r h₁) fun kept w₂ h₂ => ?_
      cases kept with
      | true => exact h₂
      | false => exact ⟨h₂.holding, fun r' hr' => h₂.seen r' (List.mem_append_right _ hr')⟩

lemma getBrokerNodeByMachineId_safe (machineId : String) (expected : Option Hash)
    (h : Reading w i authorization token rows) :
    KeyedSafe C authority i (Finds i authorization token rows)
      (getBrokerNodeByMachineId authority machineId expected) w := by
  refine .read hC rfl fun w₁ hown₁ hgrows₁ _ _ a₁ => ?_
  refine Shared.Safe.then (provenMachineNode_safe hC machineId _ expected
    (h.after C authority hown₁ hgrows₁ rfl a₁)) fun proven w₂ h₂ => ?_
  cases proven with
  | some r => exact h₂
  | none =>
    refine KeyedSafe.read hC rfl fun w₃ hown₃ hgrows₃ hinv₃ _ a₃ => ?_
    have hafter := h₂.after C authority hown₃ hgrows₃
      (q := .candidates machineId _) rfl a₃
    refine Shared.Safe.weaken (firstReusable_safe hC _ rows
      ⟨hafter.holding, fun r hr => ?_⟩) fun found w₄ h₄ => ?_
    · rcases List.mem_append.mp hr with hr | hr
      · have hmem : r ∈ w₃.store.nodes :=
          (Table.mem_select.mp (List.mem_mergeSort.mp (List.mem_of_mem_take hr))).1
        exact seen_of_mem C authority hinv₃ hmem _ a₃
      · exact hafter.seen r hr
    · refine ⟨h₄.holding, fun r hr => h₄.seen r ?_⟩
      rcases List.mem_append.mp hr with hr | hr
      · exact List.mem_append_left _ hr
      · exact List.mem_append_right _ (List.mem_append_right _ hr)

lemma bySupersededProof_safe (expected : Option Hash)
    (h : Reading w i authorization token rows) :
    KeyedSafe C authority i (Finds i authorization token rows) (bySupersededProof expected) w := by
  cases expected with
  | none => exact h
  | some tokenHash =>
    refine .last (q := .nodeByPreviousTokenHash tokenHash) hC rfl
      fun w₁ hown₁ hgrows₁ hinv₁ _ a₁ => ?_
    have hafter := h.after C authority hown₁ hgrows₁
      (q := .nodeByPreviousTokenHash tokenHash) rfl a₁
    refine ⟨hafter.holding, fun r hr => ?_⟩
    rcases List.mem_append.mp hr with hr | hr
    · exact seen_of_mem C authority hinv₁ (Store.mem_of_someNode (Option.mem_toList.mp hr)).1 _ a₁
    · exact hafter.seen r hr

lemma byMachine_safe (expected : Option Hash) (machine? : Option String)
    (h : Reading w i authorization token rows) :
    KeyedSafe C authority i (Finds i authorization token rows)
      (byMachine authority expected machine?) w := by
  cases machine? with
  | none => exact h
  | some machineId => exact getBrokerNodeByMachineId_safe hC machineId expected h

lemma resolveNodeForEnroll_safe (data : EnrollData) (expected : Option Hash)
    (h : Reading w i authorization token rows) :
    KeyedSafe C authority i (Finds i authorization token rows)
      (resolveNodeForEnroll authority data expected) w := by
  unfold resolveNodeForEnroll
  cases data.nodeId with
  | some id =>
    refine .lookup (q := .nodeById id) hC rfl (fun found => found) (fun _ _ => rfl) h
      fun byId w₁ h₁ => ?_
    cases byId with
    | some r => exact h₁
    | none => exact bySupersededProof_safe hC expected h₁
  | none =>
    refine .lookup (q := .nodeByName (withoutHash data.name)) hC rfl (fun found => found)
      (fun _ _ => rfl) h fun byName w₁ h₁ => ?_
    cases byName with
    | some r => exact h₁
    | none =>
      refine Shared.Safe.then (byMachine_safe hC expected data.machine h₁) fun onMachine w₂ h₂ => ?_
      cases onMachine with
      | some r => exact h₂
      | none => exact bySupersededProof_safe hC expected h₂

lemma nameTaken_safe (data : EnrollData) (name : String)
    (h : Reading w i authorization token rows) :
    KeyedSafe C authority i (fun _ w => Reading w i authorization token rows)
      (nameTaken data name) w := by
  unfold nameTaken
  cases data.nodeId with
  | none => exact h
  | some id =>
    refine .lookup (q := .nodeByName name) hC rfl (fun found => found) (fun _ _ => rfl) h
      fun nameHolder w₁ h₁ => ?_
    exact ⟨h₁.holding, fun r hr => h₁.seen r (List.mem_append_right _ hr)⟩

/-! ## Writing it -/

/-- What the callers of `createNodeToken` authorize: a key is used by a host, and its token is
derived with the proof the host presents. -/
structure Authorized (C : Crypto) (authorization : Authorization) : Prop where
  host : authorization.keyedRecovery.isSome = true → authorization.directAgentId = none
  derived : ∀ recovery, authorization.keyedRecovery = some recovery → ∃ κ,
    recovery.replacementToken = C.replacementToken κ ∧
      authorization.expectedTokenHash = κ.currentNodeToken.map C.sha256Hex

/-- The enrollment has been resolved, and has read the clock since it read its row. -/
structure Begun (C : Crypto) (w : World lang Store) (i : ℕ) (e : Attempt)
    (existing : Option NodeRow) : Prop where
  holding : Holding w i e.authorization e.token
  hash : e.tokenHash = C.sha256Hex e.token
  clock : e.now ≤ w.store.now
  seen : ∀ r, existing = some r → Seen w i r
  read : ∀ r, existing = some r → ∃ e' ∈ w.eventsOf i, r ∈ e'.before.nodes ∧ e'.before.now ≤ e.now

/-- At an event, the row is the one the keyed request has left, and its window is open. -/
structure ReplaysAt (C : Crypto) (w : World lang Store) (authorization : Authorization)
    (recovery : KeyedRecovery) (enrolled : Enrolled) (e : Event lang Store) : Prop where
  mem : enrolled.node ∈ e.before.nodes
  token : enrolled.node.tokenHash = C.sha256Hex enrolled.token
  key : enrolled.node.rotationIdempotencyKeyHash = some recovery.idempotencyKeyHash
  body : enrolled.node.rotationRequestDigest = some recovery.requestDigest
  proof : enrolled.node.previousTokenHash = authorization.expectedTokenHash
  window : ∃ e' ∈ w.trace, ∃ row, e'.stmt.written e'.reply = some row ∧
    row.id = enrolled.node.id ∧ row.tokenHash = enrolled.node.tokenHash ∧
      e.before.now < e'.before.now + NODE_ROTATION_RECOVERY_TTL_MS

/-- What an enrollment has handed out: a token its row has held, of its own request under a key,
written by the call or replayed. -/
structure Delivered (C : Crypto) (w : World lang Store) (i : ℕ) (authorization : Authorization)
    (enrolled : Enrolled) : Prop where
  held : Held w enrolled.node.id (C.sha256Hex enrolled.token)
  token : ∀ recovery, authorization.keyedRecovery = some recovery →
    enrolled.token ∈ recovery.replacementTokens
  source : ∃ e ∈ w.eventsOf i, e.stmt.written e.reply = some enrolled.node ∨
    ∃ recovery, authorization.keyedRecovery = some recovery ∧
      ReplaysAt C w authorization recovery enrolled e

/-- What an enrollment returns with. -/
def Delivers (C : Crypto) (i : ℕ) (authorization : Authorization) :
    EnrollResult → World lang Store → Prop
  | .error _, _ => True
  | .ok enrolled, w => Delivered C w i authorization enrolled

omit hC in
/-- What `replayedToken` has checked. -/
lemma Attempt.replayedToken_spec {e : Attempt} {r : NodeRow} {token : Token}
    (h : e.replayedToken C r = some token) : ∃ recovery,
      e.authorization.keyedRecovery = some recovery ∧ token ∈ recovery.replacementTokens ∧
        C.sha256Hex token = r.tokenHash ∧ r.previousTokenHash = e.authorization.expectedTokenHash ∧
          r.rotationIdempotencyKeyHash = some recovery.idempotencyKeyHash ∧
            r.rotationRequestDigest = some recovery.requestDigest ∧
              ∃ expiresAt, r.previousTokenExpiresAt = some expiresAt ∧ e.now < toDate expiresAt := by
  obtain ⟨hfound, hreplay⟩ := Option.filter_eq_some_iff.mp h
  obtain ⟨recovery, hrecovery, hfind⟩ := Option.bind_eq_some_iff.mp hfound
  simp only [Attempt.isIdempotentReplay, Attempt.keyedBindingMatches, hrecovery, Option.any_some,
    Bool.and_eq_true, beq_iff_eq, Option.any_eq_true, decide_eq_true_eq] at hreplay
  obtain ⟨hproof, ⟨hkey, hbody⟩, expiresAt, hexpires, hopen⟩ := hreplay
  have hhash : (C.sha256Hex token == r.tokenHash) = true :=
    List.find?_some (p := fun token => C.sha256Hex token == r.tokenHash) hfind
  exact ⟨recovery, hrecovery, List.mem_of_find?_eq_some hfind, beq_iff_eq.mp hhash, hproof, hkey,
    hbody, expiresAt, hexpires, hopen⟩

omit hC in
/-- A row that was read while its window was open may be replayed. -/
lemma Delivered.of_replayedToken {e : Attempt} {r : NodeRow} {token : Token}
    (h : e.replayedToken C r = some token) (hseen : Seen w i r) {e' : Event lang Store}
    (he' : e' ∈ w.eventsOf i) (hr : r ∈ e'.before.nodes)
    (hopen : ∀ expiresAt, r.previousTokenExpiresAt = some expiresAt → e.now < toDate expiresAt →
      e'.before.now < toDate expiresAt) : Delivered C w i e.authorization ⟨r, token⟩ := by
  obtain ⟨recovery, hrecovery, hmem, hhash, hproof, hkey, hbody, expiresAt, hexpires, hnow⟩ :=
    Attempt.replayedToken_spec h
  obtain ⟨e'', he'', row, hrow, hid, htoken, hwindow⟩ := hseen.window expiresAt hexpires
  have hclosed := hopen expiresAt hexpires hnow
  refine ⟨hhash ▸ hseen.held, fun recovery' hrecovery' => ?_, e', he', .inr ⟨recovery, hrecovery,
    hr, hhash.symm, hkey, hbody, hproof, e'', he'', row, hrow, hid, htoken, ?_⟩⟩
  · obtain rfl := Option.some.inj (hrecovery.symm.trans hrecovery')
    exact hmem
  · exact lt_of_lt_of_le hclosed hwindow

omit hC in
/-- The winner of a lost race is replayed in the state in which it is read. -/
lemma delivers_winner {e : Attempt} {error : CodedError} {q : Stmt} {p : NodeRow → Bool}
    (hinv : KeyedInv C w) (a : q.Answer)
    (hopen : ∀ r ∈ w.store.nodes, ∀ expiresAt, r.previousTokenExpiresAt = some expiresAt →
      e.now < toDate expiresAt → w.store.now < toDate expiresAt) :
    Delivers C i e.authorization (e.replay C error (w.store.node? p))
      (w.after (machine C authority) i q a) := by
  unfold Attempt.replay
  split
  · next enrolled hfound =>
    obtain ⟨r, hr, hreplayed⟩ := Option.bind_eq_some_iff.mp hfound
    obtain ⟨token, htoken, rfl⟩ := Option.map_eq_some_iff.mp hreplayed
    have hmem := (Store.mem_of_node? hr).1
    exact .of_replayedToken htoken (seen_of_mem C authority hinv hmem q a)
      (World.event_mem_eventsOf _ _ _ _ _) hmem (hopen r hmem)
  · trivial

omit hC in
/-- What a write has returned, its row has held. -/
lemma delivered_of_written {e : Attempt} {q : Stmt} {a : q.Answer} {row : NodeRow}
    (hattempt : q.attempt = some e) (hhash : e.tokenHash = C.sha256Hex e.token)
    (hholding : Holding w i e.authorization e.token)
    (hwritten : q.written (run C authority q a w'.store).1 = some row) :
    Delivered C (w'.after (machine C authority) i q a) i e.authorization ⟨row, e.token⟩ := by
  have hheld : Held (w'.after (machine C authority) i q a) row.id row.tokenHash ∧
      row.tokenHash = e.tokenHash := by
    cases run_nodes C authority q a w'.store with
    | same hnone => simp [hnone] at hwritten
    | updated p f r ret nodes hupdate hr hp hnodes hnodes' hret hid htoken =>
      obtain rfl := Option.some.inj (hret.symm.trans hwritten)
      have hmem : f r ∈ (run C authority q a w'.store).2.nodes := by
        rw [hnodes']
        exact (Table.mem_updateChecked hnodes).mpr ⟨r, hr, by rw [if_pos hp]⟩
      have hfhash : (f r).tokenHash = e.tokenHash := by
        cases q with
        | rotate e' existing =>
          obtain ⟨rfl, rfl⟩ := Prod.mk.inj (Option.some.inj hupdate)
          obtain rfl := Option.some.inj hattempt
          rw [nodesAdvanceLivenessRevision_tokenHash]
          rfl
        | insert => simp [Stmt.update] at hupdate
        | _ => simp [Stmt.attempt] at hattempt
      refine ⟨.inl ⟨f r, hmem, ?_, htoken.symm⟩, htoken.trans hfhash⟩
      rw [hid, Stmt.update_id hupdate]
    | inserted r hinserts hfree hnodes hret =>
      obtain rfl : r = row := Option.some.inj (hret.symm.trans hwritten)
      have hmem : r ∈ (run C authority q a w'.store).2.nodes := by
        rw [hnodes]
        exact List.mem_append_right _ (List.mem_singleton_self _)
      refine ⟨.inl ⟨r, hmem, rfl, rfl⟩, ?_⟩
      cases q with
      | insert e' =>
        obtain rfl := Option.some.inj hinserts
        obtain rfl := Option.some.inj hattempt
        rfl
      | _ => simp [Stmt.inserts] at hinserts
  refine ⟨?_, fun recovery hrecovery => ?_, _, World.event_mem_eventsOf _ _ _ _ _, .inl hwritten⟩
  · rw [← hhash, ← hheld.2]
    exact hheld.1
  · rw [hholding.derived recovery hrecovery]
    exact List.mem_cons_self

omit hC in
/-- The token of an unkeyed enrollment is fresh. -/
lemma Holding.fresh {e : Attempt} (h : Holding w i e.authorization e.token)
    (hhash : e.tokenHash = C.sha256Hex e.token) (hkey : e.authorization.keyedRecovery = none)
    (hown : w'.eventsOf i = w.eventsOf i) : Fresh C w' i e.tokenHash := by
  obtain ⟨e', he', hissued⟩ := h.issued hkey
  refine ⟨⟨e', hown ▸ he', e.token, hissued, hhash.symm⟩, fun e'' he'' => ?_⟩
  exact h.nothing e'' (hown ▸ he'')

variable {e : Attempt}

omit hC in
lemma Begun.after {existing : Option NodeRow} (h : Begun C w i e existing)
    (hown : w'.eventsOf i = w.eventsOf i) (hgrows : KeyedGrows w w') {q : Stmt}
    (hq : q.attempt = none) (a : q.Answer) :
    Begun C (w'.after (machine C authority) i q a) i e existing where
  holding := h.holding.after C authority hown hq a
  hash := h.hash
  clock := (h.clock.trans hgrows.clock).trans (le_of_eq (run_now w'.store).symm)
  seen r hr := (h.seen r hr).after C authority hown hgrows q a
  read r hr := by
    obtain ⟨e', he', hrest⟩ := h.read r hr
    exact ⟨e', mem_eventsOf_after C authority hown he', hrest⟩

omit hC in
/-- A rotation that `createNodeToken` issues is allowed. -/
lemma Begun.allowed_rotate {existing : Option NodeRow} (h : Begun C w i e existing)
    (hauth : Authorized C e.authorization) {r : NodeRow}
    (hallowed : (e.hasPresentedTokenProof || e.authorizedDirectNode r) = true)
    (hown : w'.eventsOf i = w.eventsOf i) (hgrows : KeyedGrows w w') :
    Allowed C w' i (.rotate e r) where
  clock e' heq := by
    obtain rfl := Option.some.inj heq
    exact h.clock.trans hgrows.clock
  mints e' heq := by
    obtain rfl := Option.some.inj heq
    cases hkey : e.authorization.keyedRecovery with
    | none => exact .issued (h.holding.fresh h.hash hkey hown)
    | some recovery =>
      obtain ⟨κ, hderived, hproof⟩ := hauth.derived recovery hkey
      have hdirect := hauth.host (by rw [hkey]; rfl)
      have hpresented : e.hasPresentedTokenProof = true := by
        simpa [Attempt.authorizedDirectNode, hdirect] using hallowed
      cases hκ : κ.currentNodeToken with
      | none => simp [Attempt.hasPresentedTokenProof, hproof, hκ] at hpresented
      | some token =>
        refine .rotation κ token r hκ ?_ (by rw [hproof, hκ]; rfl) hdirect
        rw [h.hash, h.holding.derived recovery hkey, hderived]

omit hC in
/-- An insert that `createNodeToken` issues is allowed, in the runs considered. -/
lemma Begun.allowed_insert {existing : Option NodeRow} (h : Begun C w i e existing)
    (hauth : Authorized C e.authorization) (hown : w'.eventsOf i = w.eventsOf i)
    (hgrows : KeyedGrows w w') (hperm : recoverable.permits w' i (.insert e)) :
    Allowed C w' i (.insert e) where
  clock e' heq := by
    obtain rfl := Option.some.inj heq
    exact h.clock.trans hgrows.clock
  mints e' heq := by
    obtain rfl := Option.some.inj heq
    cases hkey : e.authorization.keyedRecovery with
    | none => exact .issued (h.holding.fresh h.hash hkey hown)
    | some recovery =>
      obtain ⟨κ, hderived, hproof⟩ := hauth.derived recovery hkey
      obtain ⟨hnone, hspent⟩ := hperm (by rw [hkey]; rfl)
      refine .create κ ?_ ?_ hspent
      · rw [hnone] at hproof
        exact Option.map_eq_none_iff.mp hproof.symm
      · rw [h.hash, h.holding.derived recovery hkey, hderived]

lemma recoverRotation_safe (existing : NodeRow) :
    KeyedSafe C authority i (Delivers C i e.authorization) (e.recoverRotation C existing) w := by
  unfold Attempt.recoverRotation
  split
  · refine KeyedSafe.read (q := .winnerById existing.id e.now) hC rfl
      fun w₁ _ _ hinv₁ hperm a => ?_
    exact delivers_winner hinv₁ a hperm
  · trivial

lemma modify_safe (hauth : Authorized C e.authorization) (existing : NodeRow)
    (h : Begun C w i e (some existing)) :
    KeyedSafe C authority i (Delivers C i e.authorization) (e.modify C existing) w := by
  unfold Attempt.modify
  cases hreplayed : e.replayedToken C existing with
  | some token =>
    obtain ⟨e', he', hr, hbefore⟩ := h.read existing rfl
    exact Delivered.of_replayedToken hreplayed (h.seen existing rfl) he' hr
      fun expiresAt _ hnow => lt_of_le_of_lt hbefore hnow
  | none =>
    by_cases hallowed : (e.hasPresentedTokenProof || e.authorizedDirectNode existing) = true
    · simp only [hallowed, if_true]
      refine KeyedSafe.ask (q := .rotate e existing) hC fun w₁ hown₁ hgrows₁ _ _ =>
        ⟨h.allowed_rotate hauth hallowed hown₁ hgrows₁, fun a => ?_⟩
      obtain ⟨outcome, hout⟩ : ∃ outcome : WriteOutcome,
          (run C authority (.rotate e existing) a w₁.store).1 = outcome := ⟨_, rfl⟩
      rw [hout]
      cases outcome with
      | wrote updated =>
        exact delivered_of_written (q := .rotate e existing) (a := a) rfl h.hash h.holding
          (by rw [hout]; rfl)
      | violated => trivial
      | missed => exact recoverRotation_safe hC existing
    · simp only [hallowed]
      trivial

lemma create_safe (hauth : Authorized C e.authorization) (h : Begun C w i e none) :
    KeyedSafe C authority i (Delivers C i e.authorization) (e.create C) w := by
  unfold Attempt.create
  refine KeyedSafe.ask (q := .insert e) hC fun w₁ hown₁ hgrows₁ _ hperm =>
    ⟨h.allowed_insert hauth hown₁ hgrows₁ hperm, fun a => ?_⟩
  obtain ⟨outcome, hout⟩ : ∃ outcome : WriteOutcome,
      (run C authority (.insert e) a w₁.store).1 = outcome := ⟨_, rfl⟩
  rw [hout]
  have hrecover : KeyedSafe C authority i (Delivers C i e.authorization)
      (if e.keyedCreate.isSome then do
        let winner : Option NodeRow ← await (.winnerByTokenHash e.tokenHash e.now)
        pure (e.replay C uniqueViolation winner)
      else pure (.error uniqueViolation)) (w₁.after (machine C authority) i (.insert e) a) := by
    split
    · refine KeyedSafe.read (q := .winnerByTokenHash e.tokenHash e.now) hC rfl
        fun w₂ _ _ hinv₂ hperm₂ b => ?_
      exact delivers_winner hinv₂ b hperm₂
    · trivial
  cases outcome with
  | wrote created =>
    exact delivered_of_written (q := .insert e) (a := a) rfl h.hash h.holding (by rw [hout]; rfl)
  | violated => exact hrecover
  | missed => exact hrecover

lemma refusal_safe (h : Begun C w i e none) :
    KeyedSafe C authority i (fun _ w => Begun C w i e none) e.refusal w := by
  unfold Attempt.refusal
  cases e.authorization.directAgentId with
  | some agentId => exact h
  | none =>
    cases e.authorization.admitRegistration with
    | false => exact h
    | true =>
      exact .last (q := .admitRegistration) hC rfl fun w₁ hown₁ hgrows₁ _ _ a =>
        h.after hown₁ hgrows₁ rfl a

lemma enroll_safe (hauth : Authorized C e.authorization) (existing : Option NodeRow)
    (h : Begun C w i e existing) :
    KeyedSafe C authority i (Delivers C i e.authorization) (e.enroll C existing) w := by
  unfold Attempt.enroll
  split
  · trivial
  · cases existing with
    | some existing => exact modify_safe hC hauth existing h
    | none =>
      refine Shared.Safe.then (refusal_safe hC h) fun refusal w₁ h₁ => ?_
      cases refusal with
      | some error => trivial
      | none => exact create_safe hC hauth h₁

lemma mintToken_safe (hnothing : w.eventsOf i = []) :
    KeyedSafe C authority i (fun token w => Reading w i authorization token [])
      (mintToken authorization) w := by
  unfold mintToken
  cases hkey : authorization.keyedRecovery with
  | some recovery =>
    refine ⟨⟨fun e he => by simp [hnothing] at he, fun hnone => by simp [hkey] at hnone,
      fun recovery' hrecovery => ?_⟩, by simp⟩
    rw [Option.some.inj (hkey.symm.trans hrecovery)]
  | none =>
    refine .last (q := .issueCredential) hC rfl fun w₁ hown₁ _ _ _ a => ?_
    have hevents := World.eventsOf_after_self (machine C authority) w₁ i .issueCredential a
    refine ⟨⟨fun e he => ?_, fun _ => ⟨_, World.event_mem_eventsOf _ _ _ _ _, rfl⟩,
      fun recovery hrecovery => by simp [hkey] at hrecovery⟩, by simp⟩
    rw [hevents, hown₁, hnothing, List.mem_singleton] at he
    rw [he]
    rfl

/-- **Every call of `createNodeToken` delivers.** -/
theorem createNodeToken_safe (hauth : Authorized C authorization) (data : EnrollData)
    (hnothing : w.eventsOf i = []) :
    KeyedSafe C authority i (Delivers C i authorization)
      (createNodeToken C authority data authorization) w := by
  unfold createNodeToken
  refine Shared.Safe.then (mintToken_safe hC hnothing) fun token w₁ h₁ => ?_
  split
  · trivial
  split
  · trivial
  refine Shared.Safe.then (resolveNodeForEnroll_safe hC data _ h₁) fun existing w₂ h₂ => ?_
  refine Shared.Safe.then (nameTaken_safe hC data _ h₂) fun taken w₃ h₃ => ?_
  split
  · trivial
  refine KeyedSafe.read (q := .dateNow) hC rfl fun w₄ hown₄ hgrows₄ hinv₄ _ a => ?_
  have h₄ := h₃.after C authority hown₄ hgrows₄ (q := .dateNow) rfl a
  refine enroll_safe (e := ⟨data, authorization, token, C.sha256Hex token, withoutHash data.name,
    w₄.store.now⟩) hC hauth existing ⟨h₄.holding, rfl, le_rfl, fun r hr => h₄.seen r ?_,
      fun r hr => ?_⟩
  · rw [hr]
    exact List.mem_cons_self
  · obtain ⟨e, he, hmem⟩ := (h₃.seen r (by rw [hr]; exact List.mem_cons_self)).read
    refine ⟨e, mem_eventsOf_after C authority hown₄ he, hmem, ?_⟩
    exact hinv₄.clock e (World.mem_eventsOf.mp (hown₄ ▸ he)).1

end Calls

/-! ## Every run -/

section Run

variable (C : Crypto) (authority : Bool)

lemma authorized_host (currentNodeToken : Option Token) (key : Option IdempotencyKey)
    (admitted : Bool) : Authorized C (hostAuthorization C currentNodeToken key admitted) where
  host _ := rfl
  derived recovery hrecovery := by
    obtain ⟨key, -, rfl⟩ := Option.map_eq_some_iff.mp hrecovery
    exact ⟨⟨currentNodeToken, key.idempotencyKeyHash, key.requestDigest⟩, rfl, rfl⟩

lemma authorized_agent (agentId : AgentId) : Authorized C (agentAuthorization agentId) where
  host hkey := by simp [agentAuthorization] at hkey
  derived recovery hrecovery := by simp [agentAuthorization] at hrecovery

/-- What a connected node issues writes no enrollment. -/
lemma node_issues (c : Call) (hc : c.isEnrollment = false) :
    (c.body C authority).Issues fun q : Stmt => q.attempt = none := by
  cases c with
  | enrollNode | agentNodeToken => simp [Call.isEnrollment] at hc
  | registerNode id message =>
    refine Prog.issues_ask_bind rfl fun now => Prog.issues_ask_bind rfl fun existing => ?_
    cases existing with
    | none => trivial
    | some existing =>
      refine Prog.issues_ask_bind rfl fun existingByName => ?_
      split
      · trivial
      · cases existing.role with
        | direct => exact Prog.issues_ask_bind rfl fun _ => trivial
        | broker =>
          refine Prog.issues_ask_bind rfl fun outcome => ?_
          cases outcome with
          | violated => trivial
          | missed | wrote => exact Prog.issues_ask_bind rfl fun _ => trivial
  | heartbeatNode id name =>
    refine Prog.issues_ask_bind rfl fun nodeState => ?_
    cases nodeState with
    | none => trivial
    | some nodeState =>
      refine Prog.issues_ask_bind rfl fun now => ?_
      cases nodeState.role with
      | direct | broker => exact Prog.issues_ask_bind rfl fun _ => trivial
  | disconnectNode id =>
    exact Prog.issues_ask_bind rfl fun now => Prog.issues_ask_bind rfl fun _ => trivial

/-- What a call returns with. -/
def Call.Delivers (i : ℕ) : (c : Call) → c.Result → World lang Store → Prop
  | .enrollNode _ currentNodeToken key admitted, result, w =>
    Enrollment.Delivers C i (hostAuthorization C currentNodeToken key admitted) result w
  | .agentNodeToken agentId _, result, w =>
    Enrollment.Delivers C i (agentAuthorization agentId) result w
  | .registerNode .., _, _ | .heartbeatNode .., _, _ | .disconnectNode _, _, _ => True

/-- What an enrollment may issue: reads, an insert, and rotations it is authorized for. -/
def EnrollIssues (authorization : Authorization) : Stmt → Prop
  | .rotate e existing => e.authorization = authorization ∧
      (e.hasPresentedTokenProof || e.authorizedDirectNode existing) = true
  | .registerDirect .. | .registerBroker .. | .refreshAggregate .. => False
  | .heartbeatDirect .. | .markOffline .. => False
  | _ => True

lemma resolveNodeForEnroll_issues (authorization : Authorization) (data : EnrollData)
    (expected : Option Hash) :
    (resolveNodeForEnroll authority data expected).Issues (EnrollIssues authorization) := by
  have hsuperseded : (bySupersededProof expected).Issues (EnrollIssues authorization) := by
    cases expected with
    | none => trivial
    | some tokenHash => exact ⟨trivial, fun _ => trivial⟩
  have hreusable : ∀ r, (reusableMachineNode authority r).Issues (EnrollIssues authorization) := by
    intro r
    cases authority with
    | true => exact ⟨trivial, fun _ => trivial⟩
    | false => exact Prog.issues_ask_bind trivial fun _ => trivial
  have hfirst : ∀ rs, (firstReusable authority rs).Issues (EnrollIssues authorization) := by
    intro rs
    induction rs with
    | nil => trivial
    | cons r rs ih => exact (hreusable r).bind fun _ => ih.bind fun _ => trivial
  have hproven : ∀ machineId now,
      (provenMachineNode authority machineId now expected).Issues (EnrollIssues authorization) := by
    intro machineId now
    cases expected with
    | none => trivial
    | some tokenHash =>
      refine Prog.issues_ask_bind trivial fun candidate => ?_
      cases candidate with
      | none => trivial
      | some r => exact (hreusable r).bind fun _ => trivial
  have hmachine : (byMachine authority expected data.machine).Issues
      (EnrollIssues authorization) := by
    cases data.machine with
    | none => trivial
    | some machineId =>
      refine Prog.issues_ask_bind trivial fun now => (hproven machineId now).bind fun proven => ?_
      cases proven with
      | some r => trivial
      | none => exact Prog.issues_ask_bind trivial fun candidates => hfirst candidates
  unfold resolveNodeForEnroll
  cases data.nodeId with
  | some id =>
    refine Prog.issues_ask_bind trivial fun byId => ?_
    cases byId with
    | some r => trivial
    | none => exact hsuperseded
  | none =>
    refine Prog.issues_ask_bind trivial fun byName => ?_
    cases byName with
    | some r => trivial
    | none =>
      refine hmachine.bind fun onMachine => ?_
      cases onMachine with
      | some r => trivial
      | none => exact hsuperseded

lemma recoverRotation_issues (e : Attempt) (existing : NodeRow) :
    (e.recoverRotation C existing).Issues (EnrollIssues e.authorization) := by
  unfold Attempt.recoverRotation
  by_cases hkey : e.authorization.keyedRecovery.isSome = true
  · rw [if_pos hkey]
    exact ⟨trivial, fun _ => trivial⟩
  · rw [if_neg hkey]
    trivial

lemma modify_issues (e : Attempt) (existing : NodeRow) :
    (e.modify C existing).Issues (EnrollIssues e.authorization) := by
  unfold Attempt.modify
  cases e.replayedToken C existing with
  | some token => trivial
  | none =>
    by_cases hallowed : (e.hasPresentedTokenProof || e.authorizedDirectNode existing) = true
    · simp only [hallowed, if_true]
      refine Prog.issues_ask_bind ⟨rfl, hallowed⟩ fun outcome => ?_
      cases outcome with
      | wrote | violated => trivial
      | missed => exact recoverRotation_issues C e existing
    · simp only [hallowed]
      trivial

lemma create_issues (e : Attempt) : (e.create C).Issues (EnrollIssues e.authorization) := by
  refine Prog.issues_ask_bind trivial fun outcome => ?_
  cases outcome with
  | wrote => trivial
  | violated | missed =>
    change (if e.keyedCreate.isSome then _ else _ : Prog lang EnrollResult).Issues _
    split
    · exact Prog.issues_ask_bind trivial fun _ => trivial
    · trivial

lemma enroll_issues (e : Attempt) (existing : Option NodeRow) :
    (e.enroll C existing).Issues (EnrollIssues e.authorization) := by
  unfold Attempt.enroll
  split
  · trivial
  · cases existing with
    | some existing => exact modify_issues C e existing
    | none =>
      have hrefusal : e.refusal.Issues (EnrollIssues e.authorization) := by
        unfold Attempt.refusal
        cases e.authorization.directAgentId with
        | some agentId => trivial
        | none =>
          cases e.authorization.admitRegistration with
          | false => trivial
          | true => exact ⟨trivial, fun _ => trivial⟩
      refine hrefusal.bind fun refusal => ?_
      cases refusal with
      | some error => trivial
      | none => exact create_issues C e

lemma createNodeToken_issues (data : EnrollData) (authorization : Authorization) :
    (createNodeToken C authority data authorization).Issues (EnrollIssues authorization) := by
  have hmint : (mintToken authorization).Issues (EnrollIssues authorization) := by
    unfold mintToken
    cases authorization.keyedRecovery with
    | some recovery => trivial
    | none => exact ⟨trivial, fun _ => trivial⟩
  have htaken : ∀ name, (nameTaken data name).Issues (EnrollIssues authorization) := by
    intro name
    unfold nameTaken
    cases data.nodeId with
    | none => trivial
    | some id => exact Prog.issues_ask_bind trivial fun _ => trivial
  unfold createNodeToken
  refine hmint.bind fun token => ?_
  split
  · trivial
  split
  · trivial
  refine (resolveNodeForEnroll_issues authority authorization data _).bind fun existing => ?_
  refine (htaken _).bind fun taken => ?_
  split
  · trivial
  exact Prog.issues_ask_bind trivial fun now => enroll_issues C
    ⟨data, authorization, token, C.sha256Hex token, withoutHash data.name, now⟩ existing

/-- What the calls of a kind issue. -/
def CallIssues : Call → Stmt → Prop
  | .enrollNode _ currentNodeToken key admitted =>
    EnrollIssues (hostAuthorization C currentNodeToken key admitted)
  | .agentNodeToken agentId _ => EnrollIssues (agentAuthorization agentId)
  | _ => fun _ => True

lemma call_issues (c : Call) : (c.body C authority).Issues (CallIssues C c) := by
  cases c with
  | enrollNode data currentNodeToken key admitted => exact createNodeToken_issues C authority data _
  | agentNodeToken agentId data => exact createNodeToken_issues C authority data _
  | registerNode | heartbeatNode | disconnectNode => exact Prog.issues_true _

variable {C authority} in
/-- A row that an enrollment changes is one it may change. -/
lemma mayChange {c : Call} (hc : c.isEnrollment = true) {q : Stmt} (hq : CallIssues C c q)
    {a : q.Answer} {s : Store} {r r' : NodeRow} (hr : r ∈ s.nodes)
    (hr' : r' ∈ (run C authority q a s).2.nodes) (hid : r'.id = r.id) (hne : r' ≠ r) :
    MayChange C c r := by
  have hrotate : ∀ authorization, EnrollIssues authorization q →
      ∃ (e : Attempt) (existing : NodeRow), e.authorization = authorization ∧
        (e.hasPresentedTokenProof || e.authorizedDirectNode existing) = true ∧
          e.rotatesWhere authority existing r = true := by
    intro authorization hissues
    rcases mem_run hr' with ⟨-, hold⟩ | ⟨-, ⟨r₀, hr₀, p, f, hupdate, hp, rfl⟩ | ⟨-, hfree⟩⟩
    · exact absurd (eq_of_id hold hr hid) hne
    · obtain rfl : r₀ = r := eq_of_id hr₀ hr ((Stmt.update_id hupdate r₀).symm.trans hid)
      cases q with
      | rotate e existing =>
        obtain ⟨rfl, rfl⟩ := Prod.mk.inj (Option.some.inj hupdate)
        exact ⟨e, existing, hissues.1, hissues.2, hp⟩
      | registerDirect | registerBroker | refreshAggregate | heartbeatDirect | markOffline =>
        exact hissues.elim
      | _ => simp [Stmt.update] at hupdate
    · have hclash := List.any_eq_false.mp hfree r hr
      simp [clash, key, hid] at hclash
  cases c with
  | enrollNode data currentNodeToken key admitted =>
    obtain ⟨e, existing, hauth, hallowed, hwhere⟩ := hrotate _ hq
    have hdirect : e.authorization.directAgentId = none := by rw [hauth]; rfl
    have hproof : e.authorization.expectedTokenHash = currentNodeToken.map C.sha256Hex := by
      rw [hauth]
      rfl
    cases currentNodeToken with
    | none =>
      simp [Attempt.hasPresentedTokenProof, Attempt.authorizedDirectNode, hproof, hdirect]
        at hallowed
    | some token =>
      exact .inl ⟨data, token, key, admitted, rfl,
        Attempt.tokenHash_of_rotatesWhere hwhere hproof hdirect⟩
  | agentNodeToken agentId data =>
    obtain ⟨e, existing, hauth, hallowed, hwhere⟩ := hrotate _ hq
    simp only [Attempt.hasPresentedTokenProof, Attempt.authorizedDirectNode, hauth,
      agentAuthorization, Option.isSome_none, Option.any_some, Bool.false_or, Bool.and_eq_true,
      beq_iff_eq] at hallowed
    simp only [Attempt.rotatesWhere, Bool.and_eq_true, beq_iff_eq] at hwhere
    exact .inr ⟨agentId, data, rfl, hwhere.1.1.trans hallowed.1⟩
  | registerNode | heartbeatNode | disconnectNode => simp [Call.isEnrollment] at hc

variable {C} (hC : C.Sound)

include hC

lemma call_safe (c : Call) (i : ℕ) (w : World lang Store) (hnothing : w.eventsOf i = []) :
    KeyedSafe C authority i (c.Delivers C i) (c.body C authority) w := by
  have hnode : c.isEnrollment = false → ∀ Q : c.Result → World lang Store → Prop,
      (∀ a w, Q a w) → KeyedSafe C authority i Q (c.body C authority) w := by
    intro hc Q hQ
    refine Shared.Safe.weaken (Shared.Safe.of_issues (node_issues C authority c hc)
      (fun w q hq hinv _ a => ?_) w) fun a w _ => hQ a w
    have hallowed : Allowed C w i q :=
      ⟨fun e he => by simp [hq] at he, fun e he => by simp [hq] at he⟩
    exact ⟨keyedInv_after hC hinv hallowed, keyedGrows_after C authority q a⟩
  cases c with
  | enrollNode data currentNodeToken key admitted =>
    exact createNodeToken_safe hC (authorized_host C currentNodeToken key admitted) data hnothing
  | agentNodeToken agentId data =>
    exact createNodeToken_safe hC (authorized_agent C agentId) data hnothing
  | registerNode | heartbeatNode | disconnectNode => exact hnode rfl _ fun _ _ => trivial

omit hC in
lemma keyedInv_init {s : Store} (hC : C.Sound) (hs : EnrollInit C s) : KeyedInv C ⟨s, []⟩ := by
  have hheld : ∀ id hash, Held ⟨s, []⟩ id hash → ∃ r ∈ s.nodes, r.id = id ∧ r.tokenHash = hash := by
    rintro id hash (h | ⟨e, he, -⟩)
    · exact h
    · simp at he
  have hspent : ∀ hash, ¬ Superseded ⟨s, []⟩ hash := by
    rintro hash ⟨e, he, -⟩
    simp at he
  have hissued : ∀ id token, Held ⟨s, []⟩ id (C.sha256Hex token) →
      ∃ n < s.issued, C.issueCredential n = token := by
    intro id token h
    obtain ⟨r, hr, -, hhash⟩ := hheld _ _ h
    obtain ⟨n, hn, htoken⟩ := hs.issued r hr
    exact ⟨n, hn, hC.sha256Hex (htoken.symm.trans hhash)⟩
  refine
    { counted := by simp
      issuer := by simp
      fresh := fun n hn id h => ?_
      own := by simp
      one_row := fun id id' hash h h' => ?_
      past := fun id hash h => .inl (hheld id hash h)
      gone := fun hash h => absurd h (hspent hash)
      consumed := fun κ token _ id h => ?_
      current := fun κ token htoken id h => ?_
      window := fun r hr expiresAt h => ?_
      clock := by simp }
  · obtain ⟨m, hm, heq⟩ := hissued _ _ h
    have hsame := hC.issued heq
    have hn : s.issued ≤ n := hn
    omega
  · obtain ⟨r, hr, rfl, hhash⟩ := hheld _ _ h
    obtain ⟨r', hr', rfl, hhash'⟩ := hheld _ _ h'
    rw [eq_of_tokenHash hr hr' (hhash.trans hhash'.symm)]
  · obtain ⟨n, -, heq⟩ := hissued _ _ h
    exact absurd (heq ▸ List.mem_cons_self) (hC.apart κ n)
  · obtain ⟨n, -, heq⟩ := hissued _ _ h
    exact absurd (heq ▸ htoken) (hC.apart κ n)
  · rw [hs.unkeyed r hr] at h
    simp at h

/-- The invariant, and what returned calls have delivered. -/
lemma keyed_sound {g : Config lang Store Call.Result}
    (h : (service C authority (EnrollInit C)).Reachable recoverable g) :
    KeyedInv C g.world ∧ ∀ (i : ℕ) (c : Call) (a : c.Result),
      g.threads[i]? = some ⟨c, some (.done a)⟩ →
        ∃ w₀, g.world.eventsOf i = w₀.eventsOf i ∧ KeyedGrows w₀ g.world ∧ c.Delivers C i a w₀ := by
  refine Shared.sound (S := service C authority (EnrollInit C)) (H := keyedShared C)
    (fun s hs => keyedInv_init hC hs) (fun d w hw => ?_) (fun d w => ?_)
    (fun c _ i w hnothing _ => call_safe authority hC c i w hnothing) h
  · exact { hw with clock := fun e he => (hw.clock e he).trans (Nat.le_add_right _ _) }
  · exact ⟨fun _ _ h => h, fun _ h => h, Nat.le_add_right _ _⟩

end Run

/-! ## Runs of a small deployment -/

lemma prefixed_append_inj {text text' : String} {rest rest' : List Char}
    (h : prefixed text ++ rest = prefixed text' ++ rest') : text = text' ∧ rest = rest' := by
  have hunary : ∀ (m n : ℕ) (xs ys : List Char), List.replicate m '1' ++ '0' :: xs =
      List.replicate n '1' ++ '0' :: ys → m = n ∧ xs = ys := by
    intro m
    induction m with
    | zero =>
      intro n xs ys heq
      cases n with
      | zero => simpa using heq
      | succ n => simp [List.replicate_succ] at heq
    | succ m ih =>
      intro n xs ys heq
      cases n with
      | zero => simp [List.replicate_succ] at heq
      | succ n =>
        simp only [List.replicate_succ, List.cons_append, List.cons.injEq, true_and] at heq
        obtain ⟨rfl, rfl⟩ := ih n xs ys heq
        exact ⟨rfl, rfl⟩
  simp only [prefixed, List.append_assoc, List.cons_append] at h
  obtain ⟨hlength, hrest⟩ := hunary _ _ _ _ h
  obtain ⟨hlist, rfl⟩ := List.append_inj hrest hlength
  exact ⟨String.toList_injective hlist, rfl⟩

lemma plainCrypto_sound : plainCrypto.Sound where
  sha256Hex := fun _ _ h => h
  issued m n h := by
    have hlist := List.cons.inj (String.ofList_injective h)
    simpa using congrArg List.length hlist.2
  derived κ κ' token h h' := by
    obtain rfl := List.mem_singleton.mp h
    have heq := String.ofList_injective (List.mem_singleton.mp h')
    simp only [List.cons_append, List.append_assoc, List.cons.injEq, true_and] at heq
    obtain ⟨hkey, hrest⟩ := prefixed_append_inj heq
    obtain ⟨hbody, hproof⟩ := prefixed_append_inj hrest
    have hne : ∀ text, prefixed text ≠ [] := by simp [prefixed]
    obtain ⟨proof, key, body⟩ := κ
    obtain ⟨proof', key', body'⟩ := κ'
    obtain rfl : key = key' := hkey
    obtain rfl : body = body' := hbody
    rcases proof with _ | token <;> rcases proof' with _ | token'
    · rfl
    · exact absurd hproof.symm (hne token')
    · exact absurd hproof (hne token)
    · have htoken : prefixed token ++ [] = prefixed token' ++ [] := by simpa using hproof
      rw [(prefixed_append_inj htoken).1]
  apart κ n h := by
    have heq := String.ofList_injective (List.mem_singleton.mp h)
    simp at heq

abbrev keyedService := service plainCrypto false (EnrollInit plainCrypto)

def noNodesYet : Store := ⟨.empty, 1000000, 0⟩

lemma enrollInit_noNodesYet : EnrollInit plainCrypto noNodesYet where
  issued r hr := absurd hr (Table.not_mem_empty r)
  unkeyed r hr := absurd hr (Table.not_mem_empty r)

/-- A check of `recoverable`. -/
def recoverableOk (w : World lang Store) : Stmt → Bool
  | .insert e => e.authorization.keyedRecovery.isNone ||
      (e.authorization.expectedTokenHash.isNone &&
        w.trace.all fun e' => e'.before.nodes.rows.all fun r => r.tokenHash != e.tokenHash)
  | .winnerById _ now | .winnerByTokenHash _ now => w.store.nodes.rows.all fun r =>
      r.previousTokenExpiresAt.all fun expiresAt =>
        !decide (now < toDate expiresAt) || decide (w.store.now < toDate expiresAt)
  | _ => true

lemma recoverable_permits (w : World lang Store) (i : ℕ) (q : Stmt)
    (h : recoverableOk w q = true) : recoverable.permits w i q := by
  have hwinner : ∀ now, (w.store.nodes.rows.all fun r => r.previousTokenExpiresAt.all
      fun expiresAt => !decide (now < toDate expiresAt) ||
        decide (w.store.now < toDate expiresAt)) = true → ∀ r ∈ w.store.nodes, ∀ expiresAt,
      r.previousTokenExpiresAt = some expiresAt → now < toDate expiresAt →
        w.store.now < toDate expiresAt := by
    intro now hall r hr expiresAt hexpires hnow
    have hrow := List.all_eq_true.mp hall r hr
    rw [hexpires, Option.all_some] at hrow
    simpa [hnow] using hrow
  cases q with
  | insert e =>
    intro hkeyed
    simp only [recoverableOk, Bool.or_eq_true, Bool.and_eq_true, Option.isNone_iff_eq_none,
      List.all_eq_true] at h
    rcases h with hnone | ⟨hproof, hnever⟩
    · simp [hnone] at hkeyed
    · refine ⟨hproof, ?_⟩
      rintro ⟨e', he', r, hr, -, -, -, hhash, -⟩
      simpa [hhash] using hnever e' he' r hr
  | winnerById id now => exact hwinner now h
  | winnerByTokenHash tokenHash now => exact hwinner now h
  | _ => trivial

/-- The key and the body of a first enrollment. -/
def firstEnrollment : KeyedRequest := ⟨none, "key", "body"⟩

/-- The host of a broker, under a name and with what it presents. -/
def enrollBroker (name : String) (currentNodeToken : Option Token) (key : Option IdempotencyKey) :
    Call :=
  .enrollNode ⟨none, name, none, none, none, none, none⟩ currentNodeToken key false

/-- What an enrollment under the keyed request has returned. -/
def returned (g : Config lang Store Call.Result) (i : ℕ) (κ : KeyedRequest) : Option Enrolled :=
  match g.threads[i]? with
  | some ⟨.enrollNode _ proof (some key) _, some (.done (.ok enrolled))⟩ =>
    if proof = κ.currentNodeToken ∧ key = ⟨κ.idempotencyKeyHash, κ.requestDigest⟩ then some enrolled
    else none
  | _ => none

lemma returnedEnrolled_of_returned {g : Config lang Store Call.Result} {i : ℕ} {κ : KeyedRequest}
    {enrolled : Enrolled} (h : returned g i κ = some enrolled) : ReturnedEnrolled g i κ enrolled := by
  unfold returned at h
  split at h
  · next data proof key admitted enrolled' hthread =>
    split_ifs at h with hκ
    obtain rfl := Option.some.inj h
    obtain ⟨rfl, rfl⟩ := hκ
    exact ⟨data, admitted, hthread⟩
  · simp at h

/-- The node and the token a call has returned. -/
def returnedToken (g : Config lang Store Call.Result) (i : ℕ) (κ : KeyedRequest) :
    Option (NodeId × Token) :=
  (returned g i κ).map fun enrolled => (enrolled.node.id, enrolled.token)

/-- Two calls of one keyed first enrollment that both find no row. -/
def racingEnrollments : List keyedService.Move :=
  .start (enrollBroker "box" none (some ⟨"key", "body"⟩)) ::
    .start (enrollBroker "box" none (some ⟨"key", "body"⟩)) ::
    [0, 1, 0, 1, 0, 1, 1].map fun i => .exec i (answers "node")

def racedEnrollments : Config lang Store Call.Result :=
  keyedService.runFrom noNodesYet racingEnrollments

/-- The row of a keyed first enrollment is renamed by its broker and rotated by its host; then the
enrollment is retried. -/
def retriedTooLate : List keyedService.Move :=
  .start (enrollBroker "box" none (some ⟨"key", "body"⟩)) ::
    List.replicate 3 (.exec 0 (answers "node")) ++
    .start (.registerNode "node" ⟨"crate", none, [], none⟩) ::
    List.replicate 5 (.exec 1 (answers "node")) ++
    .start (enrollBroker "crate" (some (plainCrypto.replacementToken firstEnrollment)) none) ::
    List.replicate 4 (.exec 2 (answers "node")) ++
    .start (enrollBroker "box" none (some ⟨"key", "body"⟩)) ::
    List.replicate 3 (.exec 3 (answers "node2"))

def reborn : Config lang Store Call.Result := keyedService.runFrom noNodesYet retriedTooLate

/-- The rows of a store, by id and token digest. -/
def tokenTable (s : Store) : List (NodeId × Hash) := s.nodes.rows.map fun r => (r.id, r.tokenHash)

end Enrollment
