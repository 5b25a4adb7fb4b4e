import Relaycast.Workspace.Service

/-!
# What is left of a create

A batch of a create commits only where nothing stands under its ids and its key, and the binding it
leaves is never removed, only terminalized.  So there is at most one creation under a key, and what
is stored under the id of its workspace is what it has stored.  A channel that stands under an id a
call has generated was written by that call.
-/

namespace Workspace

open Relational Interleaving

variable {C : Crypto} {key : BindingKey} {k : KeyedCreate}

/-! ## What was executed -/

/-- Does the batch reach the database? -/
def Fate.reaches : Fate → Bool
  | .fails _ => false
  | _ => true

/-- The batch an executed statement has committed. -/
def committedBatch : Event lang Store → Option Batch
  | ⟨_, .create batch, answer, _, before, _⟩ =>
    if answer.1.reaches && !batch.conflicts answer.2 before then some batch else none
  | _ => none

/-- The id an executed statement has generated. -/
def generatedBy (C : Crypto) : Event lang Store → Option String
  | ⟨_, .generateId, _, _, before, _⟩ => some (C.generateId before.generated)
  | _ => none

/-- What an answered lookup of a binding has found. -/
def lookup : Event lang Store → Option (BindingKey × Option BindingRow)
  | ⟨_, .binding key, (fault : Option StorageError), _, before, _⟩ =>
    if fault.isNone then some (key, before.binding? key) else none
  | _ => none

/-- Is the batch one of the key? -/
def Batch.boundTo (key : BindingKey) (b : Batch) : Bool := b.binding.any (·.1 == key)

/-- The creations under a key. -/
def creations (key : BindingKey) (trace : List (Event lang Store)) : List (Event lang Store) :=
  trace.filter fun e => (committedBatch e).any (·.boundTo key)

/-- The binding of the key is terminalized. -/
def Terminalized (key : BindingKey) (s : Store) : Prop :=
  ∃ b ∈ s.bindings, b.key = key ∧ b.status = .terminalized

lemma mem_creations {trace : List (Event lang Store)} {e : Event lang Store} :
    e ∈ creations key trace ↔
      e ∈ trace ∧ ∃ batch, committedBatch e = some batch ∧ batch.boundTo key = true := by
  simp [creations, Option.any_eq_true]

lemma Batch.boundTo_iff {b : Batch} :
    b.boundTo key = true ↔ ∃ digest, b.binding = some (key, digest) := by
  rcases hb : b.binding with _ | ⟨key', digest⟩
  · simp [Batch.boundTo, hb]
  · simp [Batch.boundTo, hb]

/-! ## What a statement leaves -/

/-- What every statement but a create and a generated id does to the rows: bindings keep their key,
their request and their workspace, workspaces their digest, and nothing is added. -/
structure Shrinks (s s' : Store) : Prop where
  binding : ∀ b ∈ s.bindings, ∃ b' ∈ s'.bindings, b'.key = b.key ∧
    b'.requestDigest = b.requestDigest ∧ b'.workspaceId = b.workspaceId ∧
      (b.status = .terminalized → b'.status = .terminalized)
  bound : ∀ b' ∈ s'.bindings, ∃ b ∈ s.bindings, b'.key = b.key ∧
    b'.requestDigest = b.requestDigest ∧ b'.workspaceId = b.workspaceId
  workspace : ∀ r' ∈ s'.workspaces, ∃ r ∈ s.workspaces, r'.id = r.id ∧ r'.apiKeyHash = r.apiKeyHash
  channel : ∀ r ∈ s'.channels, r ∈ s.channels
  generated : s'.generated = s.generated

lemma Shrinks.refl (s : Store) : Shrinks s s where
  binding b hb := ⟨b, hb, rfl, rfl, rfl, id⟩
  bound b hb := ⟨b, hb, rfl, rfl, rfl⟩
  workspace r hr := ⟨r, hr, rfl, rfl⟩
  channel _ hr := hr
  generated := rfl

/-- A terminalizing update keeps what a binding says. -/
lemma terminalize_shrinks {T : Table BindingRow} {p : BindingRow → Bool} {now : Seconds} :
    (∀ b ∈ T, ∃ b' ∈ T.update p (Store.terminalize now) fun _ => rfl, b'.key = b.key ∧
      b'.requestDigest = b.requestDigest ∧ b'.workspaceId = b.workspaceId ∧
        (b.status = .terminalized → b'.status = .terminalized)) ∧
    ∀ b' ∈ T.update p (Store.terminalize now) fun _ => rfl, ∃ b ∈ T, b'.key = b.key ∧
      b'.requestDigest = b.requestDigest ∧ b'.workspaceId = b.workspaceId := by
  constructor
  · intro b hb
    refine ⟨_, Table.mem_update.mpr ⟨b, hb, rfl⟩, ?_⟩
    by_cases hp : p b = true <;> simp [hp, Store.terminalize]
  · intro b' hb'
    rcases Table.mem_update_cases hb' with ⟨hb, -⟩ | ⟨b, hb, -, rfl⟩
    · exact ⟨b', hb, rfl, rfl, rfl⟩
    · exact ⟨b, hb, rfl, rfl, rfl⟩

lemma tombstone_shrinks (s : Store) (id : WorkspaceId) (now : Seconds) :
    Shrinks s (s.tombstone id now) where
  binding := terminalize_shrinks.1
  bound := terminalize_shrinks.2
  workspace r' hr' := by
    rcases @Table.mem_update_cases _ _ _ _ (Store.expire now) (fun _ => rfl) _ hr' with ⟨hr, -⟩ | ⟨r, hr, -, rfl⟩
    · exact ⟨r', hr, rfl, rfl⟩
    · exact ⟨r, hr, rfl, rfl⟩
  channel _ hr := hr
  generated := rfl

lemma deleteWorkspaces_shrinks (s : Store) (ids : List WorkspaceId) (now : Seconds) :
    Shrinks s (s.deleteWorkspaces ids now) where
  binding := terminalize_shrinks.1
  bound := terminalize_shrinks.2
  workspace r' hr' := ⟨r', (Table.mem_deleteWhere.mp hr').1, rfl, rfl⟩
  channel _ hr := (Table.mem_deleteWhere.mp hr).1
  generated := rfl

lemma commit_shrinks {fate : Fate} {s s' : Store} (h : Shrinks s s') :
    Shrinks s (commit fate s s').2 := by
  cases fate with
  | commits | loses cause => exact h
  | fails cause => exact .refl s

/-- The statements that add rows or ids. -/
def Stmt.adds : Stmt → Bool
  | .create _ | .generateId => true
  | _ => false

lemma run_shrinks {q : Stmt} (hq : q.adds = false) (a : q.Answer) (s : Store) :
    Shrinks s (run C q a s).2 := by
  cases q with
  | create batch | generateId => simp [Stmt.adds] at hq
  | tombstone id now => exact commit_shrinks (tombstone_shrinks s id now)
  | deleteWorkspaces ids => exact commit_shrinks (deleteWorkspaces_shrinks s ids a.2)
  | deleteChannels ids =>
    exact commit_shrinks
      { Shrinks.refl s with channel := fun r hr => (Table.mem_deleteWhere.mp hr).1 }
  | issueCredential | newDate | parallel | binding | workspace | ownedWorkspace | channel
  | channelsOf | exceedsAtomicDeleteSize | remaining | channelPage | restDrained =>
    exact .refl s

/-! ## The invariant -/

/-- What holds of the key in every world. -/
structure KeyInv (C : Crypto) (key : BindingKey) (w : World lang Store) : Prop where
  /-- A binding of the key is that of a creation. -/
  bound : ∀ b ∈ w.store.bindings, b.key = key → ∃ e ∈ creations key w.trace, ∃ batch,
    committedBatch e = some batch ∧ batch.binding = some (key, b.requestDigest) ∧
      b.workspaceId = batch.workspaceId
  /-- A creation has left its binding. -/
  kept : ∀ e ∈ creations key w.trace, ∀ batch, committedBatch e = some batch →
    ∃ b ∈ w.store.bindings, b.key = key ∧ batch.binding = some (key, b.requestDigest) ∧
      b.workspaceId = batch.workspaceId
  once : (creations key w.trace).length ≤ 1
  /-- What is stored under the id of a creation is what it has stored. -/
  stored : ∀ e ∈ creations key w.trace, ∀ batch, committedBatch e = some batch →
    ∀ r ∈ w.store.workspaces, r.id = batch.workspaceId → r.apiKeyHash = batch.apiKeyHash
  fresh : ∀ r ∈ w.store.channels, ∀ n, w.store.generated ≤ n → r.id ≠ C.generateId n
  given : ∀ e ∈ w.trace, ∀ id, generatedBy C e = some id →
    ∃ n, n < w.store.generated ∧ C.generateId n = id
  issuer : ∀ e ∈ w.trace, ∀ e' ∈ w.trace, ∀ id, generatedBy C e = some id →
    generatedBy C e' = some id → e.caller = e'.caller
  /-- A channel under a generated id was written by the call that has generated it. -/
  owned : ∀ e ∈ w.trace, ∀ id, generatedBy C e = some id → ∀ r ∈ w.store.channels, r.id = id →
    ∃ e' ∈ w.trace, e'.caller = e.caller ∧ ∃ batch, committedBatch e' = some batch ∧
      batch.channelId = id

section Step

variable {w : World lang Store} {i : ℕ}

lemma committedBatch_event {q : Stmt} (hq : q.adds = false) (a : q.Answer) :
    committedBatch (w.event (machine C) i q a) = none := by
  cases q with
  | create batch => simp [Stmt.adds] at hq
  | _ => rfl

lemma generatedBy_event {q : Stmt} (hq : q.adds = false) (a : q.Answer) :
    generatedBy C (w.event (machine C) i q a) = none := by
  cases q with
  | generateId => simp [Stmt.adds] at hq
  | _ => rfl

lemma creations_cons_none {e : Event lang Store} {trace : List (Event lang Store)}
    (he : committedBatch e = none) : creations key (e :: trace) = creations key trace := by
  simp [creations, he]

/-- A statement that adds nothing keeps the invariant. -/
lemma KeyInv.shrink (h : KeyInv C key w) {q : Stmt} (hq : q.adds = false) (a : q.Answer) :
    KeyInv C key (w.after (machine C) i q a) := by
  have hs : Shrinks w.store (w.after (machine C) i q a).store := run_shrinks hq a w.store
  have hcommitted := committedBatch_event (C := C) (w := w) (i := i) hq a
  have hgenerated := generatedBy_event (C := C) (w := w) (i := i) hq a
  have hcreations : creations key (w.after (machine C) i q a).trace = creations key w.trace :=
    creations_cons_none hcommitted
  have hold : ∀ e ∈ (w.after (machine C) i q a).trace, ∀ id, generatedBy C e = some id →
      e ∈ w.trace := by
    intro e he id hid
    rcases List.mem_cons.mp he with rfl | he
    · simp [hgenerated] at hid
    · exact he
  constructor
  case bound =>
    intro b' hb' hkey
    obtain ⟨b, hb, hbkey, hdigest, hid⟩ := hs.bound b' hb'
    rw [hcreations, hdigest, hid]
    exact h.bound b hb (hbkey ▸ hkey)
  case kept =>
    rw [hcreations]
    intro e he batch hbatch
    obtain ⟨b, hb, hbkey, hdigest, hid⟩ := h.kept e he batch hbatch
    obtain ⟨b', hb', hbkey', hdigest', hid', -⟩ := hs.binding b hb
    exact ⟨b', hb', hbkey'.trans hbkey, hdigest' ▸ hdigest, hid'.trans hid⟩
  case once =>
    rw [hcreations]
    exact h.once
  case stored =>
    rw [hcreations]
    intro e he batch hbatch r' hr' hid
    obtain ⟨r, hr, hrid, hrhash⟩ := hs.workspace r' hr'
    exact hrhash.trans (h.stored e he batch hbatch r hr (hrid.symm.trans hid))
  case fresh =>
    intro r hr n hn
    exact h.fresh r (hs.channel r hr) n (hs.generated ▸ hn)
  case given =>
    intro e he id hid
    obtain ⟨n, hn, hgen⟩ := h.given e (hold e he id hid) id hid
    exact ⟨n, hs.generated.symm ▸ hn, hgen⟩
  case issuer =>
    intro e he e' he' id hid hid'
    exact h.issuer e (hold e he id hid) e' (hold e' he' id hid') id hid hid'
  case owned =>
    intro e he id hid r hr hrid
    obtain ⟨e', he', hcaller, hcommit⟩ :=
      h.owned e (hold e he id hid) id hid r (hs.channel r hr) hrid
    exact ⟨e', List.mem_cons_of_mem _ he', hcaller, hcommit⟩

/-- Generating an id keeps the invariant. -/
lemma KeyInv.generate (h : KeyInv C key w) :
    KeyInv C key (w.after (machine C) i .generateId ()) := by
  have hcreations : creations key (w.after (machine C) i .generateId ()).trace =
      creations key w.trace := creations_cons_none rfl
  have hnew : generatedBy C (w.event (machine C) i .generateId ()) =
      some (C.generateId w.store.generated) := rfl
  -- An id that was generated before is not the new one.
  have hne : ∀ e ∈ w.trace, generatedBy C e ≠ some (C.generateId w.store.generated) := by
    intro e he hid
    obtain ⟨n, hn, hgen⟩ := h.given e he _ hid
    have heq := C.generateId.injective hgen
    omega
  constructor
  case bound =>
    rw [hcreations]
    exact h.bound
  case kept =>
    rw [hcreations]
    exact h.kept
  case once =>
    rw [hcreations]
    exact h.once
  case stored =>
    rw [hcreations]
    exact h.stored
  case fresh =>
    intro r hr n hn
    exact h.fresh r hr n (Nat.le_of_succ_le hn)
  case given =>
    intro e he id hid
    rcases List.mem_cons.mp he with rfl | he
    · rw [hnew] at hid
      exact ⟨w.store.generated, Nat.lt_succ_self _, Option.some.inj hid⟩
    · obtain ⟨n, hn, hgen⟩ := h.given e he id hid
      exact ⟨n, Nat.lt_succ_of_lt hn, hgen⟩
  case issuer =>
    intro e he e' he' id hid hid'
    rcases List.mem_cons.mp he with rfl | he <;> rcases List.mem_cons.mp he' with rfl | he'
    · rfl
    · rw [hnew] at hid
      exact absurd (hid' ▸ hid.symm) (hne e' he')
    · rw [hnew] at hid'
      exact absurd (hid ▸ hid'.symm) (hne e he)
    · exact h.issuer e he e' he' id hid hid'
  case owned =>
    intro e he id hid r hr hrid
    rcases List.mem_cons.mp he with rfl | he
    · rw [hnew] at hid
      exact absurd (hrid.trans (Option.some.inj hid).symm) (h.fresh r hr _ le_rfl)
    · obtain ⟨e', he', hcaller, hcommit⟩ := h.owned e he id hid r hr hrid
      exact ⟨e', List.mem_cons_of_mem _ he', hcaller, hcommit⟩

/-- Whether a batch commits. -/
def Batch.commitsBy (batch : Batch) (answer : Fate × Seconds) (s : Store) : Bool :=
  answer.1.reaches && !batch.conflicts answer.2 s

lemma runCreate_store (batch : Batch) (answer : Fate × Seconds) (s : Store) :
    (runCreate batch answer.1 answer.2 s).2 =
      if batch.commitsBy answer s then s.create batch answer.2 else s := by
  rcases answer with ⟨fate, createdAt⟩
  cases fate with
  | fails cause => rfl
  | commits | loses cause =>
    by_cases hconflicts : batch.conflicts createdAt s = true <;>
      simp [runCreate, Batch.commitsBy, Fate.reaches, hconflicts]

lemma committedBatch_create (batch : Batch) (answer : Fate × Seconds) :
    committedBatch (w.event (machine C) i (.create batch) answer) =
      if batch.commitsBy answer w.store then some batch else none := rfl

/-- What stands under the ids and the key of a batch that commits: nothing. -/
structure Batch.Free (batch : Batch) (key' : BindingKey) (s : Store) : Prop where
  key : ∀ b ∈ s.bindings, b.key ≠ key'
  bound : ∀ b ∈ s.bindings, b.workspaceId ≠ batch.workspaceId
  workspace : ∀ r ∈ s.workspaces, r.id ≠ batch.workspaceId

lemma Batch.free_of_commitsBy {batch : Batch} {answer : Fate × Seconds} {s : Store}
    {key' : BindingKey} {digest : Hash} (hbinding : batch.binding = some (key', digest))
    (h : batch.commitsBy answer s = true) : batch.Free key' s := by
  have hfree : batch.conflicts answer.2 s = false := by
    rw [Batch.commitsBy, Bool.and_eq_true] at h
    simpa using h.2
  simp only [Batch.conflicts, Batch.bindingRow, hbinding, Option.map_some, Option.any_some,
    Bool.or_eq_false_iff, Table.conflicts, List.any_eq_false] at hfree
  obtain ⟨⟨hworkspace, -⟩, hrow⟩ := hfree
  constructor
  · rintro b hb rfl
    exact hrow b hb (by simp [clash, Keyed.key])
  · intro b hb hid
    exact hrow b hb (by simp [clash, Keyed.key, hid])
  · intro r hr hid
    exact hworkspace r hr (by simp [clash, Keyed.key, Batch.workspaceRow, hid])

/-- What a batch that commits adds. -/
lemma mem_create (batch : Batch) (createdAt : Seconds) (s : Store) :
    (∀ r ∈ (s.create batch createdAt).workspaces, r ∈ s.workspaces ∨
      r = batch.workspaceRow createdAt) ∧
    (∀ r ∈ (s.create batch createdAt).channels, r ∈ s.channels ∨ r = batch.channelRow) ∧
    (∀ b ∈ (s.create batch createdAt).bindings, b ∈ s.bindings ∨ batch.bindingRow = some b) ∧
    ∀ b ∈ s.bindings, b ∈ (s.create batch createdAt).bindings := by
  refine ⟨fun r hr => ?_, fun r hr => ?_, fun b hb => ?_, fun b hb => ?_⟩
  · exact (Table.mem_insertOrIgnore hr).imp id And.left
  · exact (Table.mem_insertOrIgnore hr).imp id And.left
  · rw [Store.create] at hb
    cases hrow : batch.bindingRow with
    | none => exact .inl (by simpa [hrow] using hb)
    | some row =>
      rw [hrow] at hb
      exact (Table.mem_insertOrIgnore hb).imp id fun h => by rw [h.1]
  · rw [Store.create]
    cases hrow : batch.bindingRow with
    | none => exact hb
    | some row => exact Table.mem_insertOrIgnore_of_mem hb

lemma bindingRow_mem_create {batch : Batch} {answer : Fate × Seconds} {s : Store}
    {row : BindingRow} (hrow : batch.bindingRow = some row)
    (h : batch.commitsBy answer s = true) : row ∈ (s.create batch answer.2).bindings := by
  have hfree : batch.conflicts answer.2 s = false := by
    rw [Batch.commitsBy, Bool.and_eq_true] at h
    simpa using h.2
  have hconflicts : s.bindings.conflicts row = false := by
    simp only [Batch.conflicts, hrow, Option.any_some, Bool.or_eq_false_iff] at hfree
    exact hfree.2
  rw [Store.create, hrow]
  exact Table.mem_insertOrIgnore_self hconflicts

/-- A batch that does not commit keeps the invariant. -/
lemma KeyInv.refused (h : KeyInv C key w) {batch : Batch} {answer : Fate × Seconds}
    (hcommits : batch.commitsBy answer w.store = false) :
    KeyInv C key (w.after (machine C) i (.create batch) answer) := by
  have hstore : (w.after (machine C) i (.create batch) answer).store = w.store :=
    (runCreate_store batch answer w.store).trans (by rw [if_neg (by simp [hcommits])])
  have hcreations : creations key (w.after (machine C) i (.create batch) answer).trace =
      creations key w.trace := creations_cons_none (by rw [committedBatch_create, hcommits]; rfl)
  have hold : ∀ e ∈ (w.after (machine C) i (.create batch) answer).trace, ∀ id,
      generatedBy C e = some id → e ∈ w.trace := by
    intro e he id hid
    rcases List.mem_cons.mp he with rfl | he
    · exact absurd hid (by simp [World.event, generatedBy])
    · exact he
  constructor
  case bound => rw [hcreations, hstore]; exact h.bound
  case kept => rw [hcreations, hstore]; exact h.kept
  case once => rw [hcreations]; exact h.once
  case stored => rw [hcreations, hstore]; exact h.stored
  case fresh => rw [hstore]; exact h.fresh
  case given =>
    rw [hstore]
    exact fun e he id hid => h.given e (hold e he id hid) id hid
  case issuer =>
    exact fun e he e' he' id hid hid' =>
      h.issuer e (hold e he id hid) e' (hold e' he' id hid') id hid hid'
  case owned =>
    rw [hstore]
    intro e he id hid r hr hrid
    obtain ⟨e', he', hcommit⟩ := h.owned e (hold e he id hid) id hid r hr hrid
    exact ⟨e', List.mem_cons_of_mem _ he', hcommit⟩

/-- A keyed batch that commits keeps the invariant, if its call has generated the id of its
channel. -/
lemma KeyInv.committed (h : KeyInv C key w) {batch : Batch} {answer : Fate × Seconds}
    {key' : BindingKey} {digest : Hash} (hbinding : batch.binding = some (key', digest))
    (hcommits : batch.commitsBy answer w.store = true)
    (hown : ∃ e ∈ w.trace, e.caller = i ∧ generatedBy C e = some batch.channelId) :
    KeyInv C key (w.after (machine C) i (.create batch) answer) := by
  have hstore : (w.after (machine C) i (.create batch) answer).store =
      w.store.create batch answer.2 :=
    (runCreate_store batch answer w.store).trans (if_pos hcommits)
  have hevent : committedBatch (w.event (machine C) i (.create batch) answer) = some batch := by
    rw [committedBatch_create, if_pos hcommits]
  have hrow : batch.bindingRow = some ⟨key', digest, batch.workspaceId, .active, none⟩ := by
    simp [Batch.bindingRow, hbinding]
  have hfree := Batch.free_of_commitsBy hbinding hcommits
  obtain ⟨hworkspaces, hchannels, hbindings, hkeep⟩ :=
    mem_create batch answer.2 w.store
  have hold : ∀ e ∈ (w.after (machine C) i (.create batch) answer).trace, ∀ id,
      generatedBy C e = some id → e ∈ w.trace := by
    intro e he id hid
    rcases List.mem_cons.mp he with rfl | he
    · exact absurd hid (by simp [World.event, generatedBy])
    · exact he
  have htrace : (w.after (machine C) i (.create batch) answer).trace =
      w.event (machine C) i (.create batch) answer :: w.trace := rfl
  have hmem : ∀ e, e ∈ creations key (w.after (machine C) i (.create batch) answer).trace ↔
      e ∈ creations key w.trace ∨
        (e = w.event (machine C) i (.create batch) answer ∧ key' = key) := by
    intro e
    rw [mem_creations, mem_creations, htrace, List.mem_cons]
    constructor
    · rintro ⟨rfl | he, batch', hbatch', hkey⟩
      · obtain rfl : batch = batch' := Option.some.inj (hevent.symm.trans hbatch')
        obtain ⟨digest', hdigest'⟩ := Batch.boundTo_iff.mp hkey
        exact .inr ⟨rfl, (Prod.mk.inj (Option.some.inj (hbinding.symm.trans hdigest'))).1⟩
      · exact .inl ⟨he, batch', hbatch', hkey⟩
    · rintro (⟨he, hbatch'⟩ | ⟨rfl, rfl⟩)
      · exact ⟨.inr he, hbatch'⟩
      · exact ⟨.inl rfl, batch, hevent, Batch.boundTo_iff.mpr ⟨digest, hbinding⟩⟩
  -- A creation before it under the same key would have left a binding.
  have hnone : key' = key → creations key w.trace = [] := by
    rintro rfl
    refine List.eq_nil_iff_forall_not_mem.mpr fun e he => ?_
    obtain ⟨-, batch', hbatch', -⟩ := mem_creations.mp he
    obtain ⟨b, hb, hbkey, -⟩ := h.kept e he batch' hbatch'
    exact hfree.key b hb hbkey
  constructor
  case bound =>
    intro b hb hbkey
    rw [hstore] at hb
    rcases hbindings b hb with hb | hb
    · obtain ⟨e, he, hbound⟩ := h.bound b hb hbkey
      exact ⟨e, (hmem e).mpr (.inl he), hbound⟩
    · obtain rfl := Option.some.inj (hrow.symm.trans hb)
      exact ⟨_, (hmem _).mpr (.inr ⟨rfl, hbkey⟩), batch, hevent, hbkey ▸ hbinding, rfl⟩
  case kept =>
    intro e he batch' hbatch'
    rw [hstore]
    rcases (hmem e).mp he with he | ⟨rfl, rfl⟩
    · obtain ⟨b, hb, hkept⟩ := h.kept e he batch' hbatch'
      exact ⟨b, hkeep b hb, hkept⟩
    · obtain rfl : batch = batch' := Option.some.inj (hevent.symm.trans hbatch')
      exact ⟨_, bindingRow_mem_create hrow hcommits, rfl, hbinding, rfl⟩
  case once =>
    by_cases hkey : key' = key
    · rw [creations, htrace, List.filter_cons]
      have hnil : w.trace.filter (fun e => (committedBatch e).any (·.boundTo key)) = [] :=
        hnone hkey
      rw [hnil]
      split <;> simp
    · have hnot : ((committedBatch (w.event (machine C) i (.create batch) answer)).any
          (·.boundTo key)) = false := by
        simp [hevent, Batch.boundTo, hbinding, hkey]
      rw [creations, htrace, List.filter_cons, if_neg (by simp [hnot])]
      exact h.once
  case stored =>
    intro e he batch' hbatch' r hr hid
    rw [hstore] at hr
    rcases (hmem e).mp he with he | ⟨rfl, rfl⟩
    · rcases hworkspaces r hr with hr | rfl
      · exact h.stored e he batch' hbatch' r hr hid
      · obtain ⟨b, hb, -, -, hbid⟩ := h.kept e he batch' hbatch'
        exact absurd (hbid.trans hid.symm) (hfree.bound b hb)
    · obtain rfl : batch = batch' := Option.some.inj (hevent.symm.trans hbatch')
      rcases hworkspaces r hr with hr | rfl
      · exact absurd hid (hfree.workspace r hr)
      · rfl
  case fresh =>
    intro r hr n hn
    rw [hstore] at hr hn
    rcases hchannels r hr with hr | rfl
    · exact h.fresh r hr n hn
    · obtain ⟨e, he, -, hgen⟩ := hown
      obtain ⟨m, hm, hgenm⟩ := h.given e he _ hgen
      intro heq
      have hmn : m = n := C.generateId.injective (hgenm.trans heq)
      have hle : w.store.generated ≤ n := hn
      omega
  case given =>
    rw [hstore]
    exact fun e he id hid => h.given e (hold e he id hid) id hid
  case issuer =>
    exact fun e he e' he' id hid hid' =>
      h.issuer e (hold e he id hid) e' (hold e' he' id hid') id hid hid'
  case owned =>
    intro e he id hid r hr hrid
    rw [hstore] at hr
    rcases hchannels r hr with hr | rfl
    · obtain ⟨e', he', hcommit⟩ := h.owned e (hold e he id hid) id hid r hr hrid
      exact ⟨e', List.mem_cons_of_mem _ he', hcommit⟩
    · obtain ⟨e', he', hcaller, hgen⟩ := hown
      have hsame : e.caller = e'.caller :=
        h.issuer e (hold e he id hid) e' he' id hid (hgen.trans (congrArg some hrid))
      exact ⟨_, List.mem_cons_self, (hsame.trans hcaller).symm, batch, hevent, hrid⟩

/-- What a call may do to the store: a batch is keyed, and its call has generated the id of the
channel in it. -/
def Allowed (C : Crypto) (w : World lang Store) (i : ℕ) : Stmt → Prop
  | .create batch => (∃ bound, batch.binding = some bound) ∧
      ∃ e ∈ w.eventsOf i, generatedBy C e = some batch.channelId
  | _ => True

/-- **Every statement keeps the invariant.** -/
theorem keyInv_after (h : KeyInv C key w) {q : Stmt} (hq : Allowed C w i q) (a : q.Answer) :
    KeyInv C key (w.after (machine C) i q a) := by
  cases hadds : q.adds with
  | false => exact h.shrink hadds a
  | true =>
    cases q with
    | generateId => exact h.generate
    | create batch =>
      obtain ⟨⟨⟨key', digest⟩, hbinding⟩, e, he, hgen⟩ := hq
      obtain ⟨he, hcaller⟩ := World.mem_eventsOf.mp he
      cases hcommits : batch.commitsBy a w.store with
      | false => exact h.refused hcommits
      | true => exact h.committed hbinding hcommits ⟨e, he, hcaller, hgen⟩
    | _ => simp [Stmt.adds] at hadds

end Step

end Workspace
