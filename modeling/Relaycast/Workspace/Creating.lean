import Relaycast.Workspace.Statements

/-!
# What a keyed create knows

A create looks its binding up before and after its batch, and the binding decides every replay: it
says which workspace was created for the request, and the stored digest of that workspace says
which of the derivable keys is its key.  A create whose batch may have committed without a reply
recognizes its own workspace by the id of the channel in the batch, which no other call has
generated.

`createWorkspace_delivers` is what a create promises: a workspace that was created for its request,
or the conflict if a lookup of it has found another request's binding.  Deletes create nothing.
-/

namespace Workspace

open Relational Interleaving

variable {C : Crypto} {key : BindingKey} {k : KeyedCreate}

/-! ## What one call knows -/

/-- What the calls share: the invariant, and a trace that grows. -/
def shared (C : Crypto) (key : BindingKey) : Shared lang Store where
  inv := KeyInv C key
  grows w w' := w.trace ⊆ w'.trace
  refl _ := List.Subset.refl _
  trans _ _ _ := List.Subset.trans

/-- Call `i` is safe to run with what is left of it from `w`, and returns with `Q`. -/
abbrev KeySafe (C : Crypto) (key : BindingKey) (i : ℕ) {α : Type}
    (Q : α → World lang Store → Prop) (p : Prog lang α) (w : World lang Store) : Prop :=
  (shared C key).Safe (machine C) (fun _ _ _ => True) i Q p w

section Calls

variable {w : World lang Store} {i : ℕ} {α β : Type}

/-- The rule of a statement. -/
lemma KeySafe.ask {q : Stmt} {f : Except Failure q.Value → Prog lang α}
    {Q : α → World lang Store → Prop} (hq : ∀ w', w'.eventsOf i = w.eventsOf i → Allowed C w' i q)
    (h : ∀ w', w'.eventsOf i = w.eventsOf i → w.trace ⊆ w'.trace → KeyInv C key w' →
      ∀ a : q.Answer, KeyInv C key (w'.after (machine C) i q a) →
        KeySafe C key i Q (f (run C q a w'.store).1) (w'.after (machine C) i q a)) :
    KeySafe C key i Q (Prog.ask (L := lang) q >>= f) w := by
  refine Shared.Safe.ask fun w' hown hgrows hinv _ a => ?_
  have hafter := keyInv_after hinv (hq w' hown) a
  refine ⟨⟨hafter, List.subset_cons_self _ _⟩, fun r hr => ?_⟩
  subst hr
  exact h w' hown hgrows hinv a hafter

/-- The rule of a statement whose failure is thrown. -/
lemma KeySafe.query {q : Stmt} {f : q.Value → Program α}
    {Q : Except Failure α → World lang Store → Prop}
    (hq : ∀ w', w'.eventsOf i = w.eventsOf i → Allowed C w' i q)
    (h : ∀ w', w'.eventsOf i = w.eventsOf i → w.trace ⊆ w'.trace → KeyInv C key w' →
      ∀ a : q.Answer, KeyInv C key (w'.after (machine C) i q a) →
        KeySafe C key i Q
          (match (run C q a w'.store).1 with
            | .ok value => (f value).run
            | .error e => .done (.error e)) (w'.after (machine C) i q a)) :
    KeySafe C key i Q (query q >>= f).run w := by
  refine KeySafe.ask hq fun w' hown htrace hinv a hafter => ?_
  have hnext := h w' hown htrace hinv a hafter
  generalize (run C q a w'.store).1 = reply at hnext ⊢
  cases reply with
  | ok value => exact hnext
  | error e => exact hnext

/-- Call `i` has moved on from `w` to `w'`. -/
structure Later (i : ℕ) (w w' : World lang Store) : Prop where
  own : w.eventsOf i ⊆ w'.eventsOf i
  trace : w.trace ⊆ w'.trace

lemma Later.refl (w : World lang Store) : Later i w w := ⟨List.Subset.refl _, List.Subset.refl _⟩

lemma Later.trans {w₁ w₂ w₃ : World lang Store} (h : Later i w₁ w₂) (h' : Later i w₂ w₃) :
    Later i w₁ w₃ := ⟨List.Subset.trans h.own h'.own, List.Subset.trans h.trace h'.trace⟩

lemma Later.after (C : Crypto) {w' : World lang Store} (hown : w'.eventsOf i = w.eventsOf i)
    (htrace : w.trace ⊆ w'.trace) (q : Stmt) (a : q.Answer) :
    Later i w (w'.after (machine C) i q a) where
  own := by
    rw [World.eventsOf_after_self, ← hown]
    exact List.subset_cons_self _ _
  trace := List.Subset.trans htrace (List.subset_cons_self _ _)

/-- Every lookup of the call that was answered has found nothing or a binding of its request. -/
def Undisputed (k : KeyedCreate) (es : List (Event lang Store)) : Prop :=
  ∀ e ∈ es, ∀ b, lookup e = some (k.key, some b) → b.requestDigest = k.requestDigest

/-- A lookup of the call was answered. -/
def Answered (k : KeyedCreate) (es : List (Event lang Store)) : Prop :=
  ∃ e ∈ es, ∃ found, lookup e = some (k.key, found)

/-- What a call that writes `batch` knows of itself. -/
structure Trying (C : Crypto) (k : KeyedCreate) (batch : Batch) (es : List (Event lang Store)) :
    Prop where
  undisputed : Undisputed k es
  answered : Answered k es
  generated : ∃ e ∈ es, generatedBy C e = some batch.channelId
  mine : ∀ e ∈ es, ∀ b, committedBatch e = some b → b = batch

lemma Undisputed.cons {e : Event lang Store} {es : List (Event lang Store)}
    (h : Undisputed k es)
    (he : ∀ b, lookup e = some (k.key, some b) → b.requestDigest = k.requestDigest) :
    Undisputed k (e :: es) := by
  intro e' he' b hb
  rcases List.mem_cons.mp he' with rfl | he'
  · exact he b hb
  · exact h e' he' b hb

lemma Answered.cons {es : List (Event lang Store)} (h : Answered k es) (e : Event lang Store) :
    Answered k (e :: es) := by
  obtain ⟨e', he', hfound⟩ := h
  exact ⟨e', List.mem_cons_of_mem _ he', hfound⟩

lemma Trying.cons {batch : Batch} {e : Event lang Store} {es : List (Event lang Store)}
    (h : Trying C k batch es)
    (hlookup : ∀ b, lookup e = some (k.key, some b) → b.requestDigest = k.requestDigest)
    (hcommitted : ∀ b, committedBatch e = some b → b = batch) : Trying C k batch (e :: es) where
  undisputed := h.undisputed.cons hlookup
  answered := h.answered.cons e
  generated := by
    obtain ⟨e', he', hgen⟩ := h.generated
    exact ⟨e', List.mem_cons_of_mem _ he', hgen⟩
  mine e' he' := by
    rcases List.mem_cons.mp he' with rfl | he'
    · exact hcommitted
    · exact h.mine e' he'

/-- A property of a call's own events that neither a lookup nor a batch is needed for. -/
def Quiet (K : List (Event lang Store) → Prop) : Prop :=
  ∀ e es, lookup e = none → committedBatch e = none → K es → K (e :: es)

lemma trying_quiet (batch : Batch) : Quiet (Trying C k batch) :=
  fun e es hlookup hcommitted h =>
    h.cons (fun b hb => by simp [hlookup] at hb) fun b hb => by simp [hcommitted] at hb

/-- The reads that are no lookup of a binding. -/
def Stmt.plain : Stmt → Bool
  | .create _ | .binding _ => false
  | _ => true

lemma plain_event {q : Stmt} (hq : q.plain = true) (a : q.Answer) :
    lookup (w.event (machine C) i q a) = none ∧
      committedBatch (w.event (machine C) i q a) = none := by
  cases q with
  | create batch | binding key => simp [Stmt.plain] at hq
  | _ => exact ⟨rfl, rfl⟩

lemma Quiet.after (C : Crypto) {K : List (Event lang Store) → Prop} (hK : Quiet K) {w' : World lang Store}
    (h : K (w.eventsOf i)) (hown : w'.eventsOf i = w.eventsOf i) {q : Stmt}
    (hq : q.plain = true) (a : q.Answer) : K ((w'.after (machine C) i q a).eventsOf i) := by
  rw [World.eventsOf_after_self, hown]
  obtain ⟨hlookup, hcommitted⟩ := plain_event (C := C) (w := w') (i := i) hq a
  exact hK _ _ hlookup hcommitted h

lemma allowed_plain {q : Stmt} (hq : q.plain = true) : Allowed C w i q := by
  cases q with
  | create batch => simp [Stmt.plain] at hq
  | _ => trivial

/-- The call has committed the batch. -/
def Wrote (i : ℕ) (batch : Batch) (w : World lang Store) : Prop :=
  ∃ e ∈ w.eventsOf i, committedBatch e = some batch

lemma Wrote.later {batch : Batch} {w' : World lang Store} (h : Wrote i batch w)
    (hlater : Later i w w') : Wrote i batch w' := by
  obtain ⟨e, he, hbatch⟩ := h
  exact ⟨e, hlater.own he, hbatch⟩

/-- A channel under the id the call has generated was written by the call. -/
lemma wrote_of_channel {batch : Batch} (hinv : KeyInv C key w)
    (h : Trying C k batch (w.eventsOf i)) {r : ChannelRow} (hr : r ∈ w.store.channels)
    (hid : r.id = batch.channelId) : Wrote i batch w := by
  obtain ⟨e, he, hgen⟩ := h.generated
  obtain ⟨he, hcaller⟩ := World.mem_eventsOf.mp he
  obtain ⟨e', he', hcaller', batch', hbatch', -⟩ := hinv.owned e he _ hgen r hr hid
  have hown : e' ∈ w.eventsOf i := World.mem_eventsOf.mpr ⟨he', hcaller'.trans hcaller⟩
  obtain rfl := h.mine e' hown batch' hbatch'
  exact ⟨e', hown, hbatch'⟩

lemma pairRead_matched {expected : ExpectedPair} {workspace : Except Failure (Option WorkspaceRow)}
    {channel : Except Failure (Option ChannelRow)} {v : WorkspaceWriteResult}
    (h : pairRead expected workspace channel = .matched v) :
    ∃ r, channel = .ok (some r) ∧ r.id = expected.channelId := by
  rcases workspace with _ | workspace <;> rcases channel with _ | channel
  case ok.ok =>
    rcases workspace with _ | workspace <;> rcases channel with _ | r
    case some.some =>
      refine ⟨r, rfl, ?_⟩
      by_contra hne
      simp [pairRead, isExpectedWorkspacePair, hne] at h
    all_goals simp [pairRead, isExpectedWorkspacePair] at h
  all_goals simp [pairRead] at h

lemma mem_of_channel_read {fault : Option StorageError} {s : Store} {id : ChannelId}
    {r : ChannelRow} (h : read fault (s.channel? id) = .ok (some r)) : r ∈ s.channels := by
  cases fault with
  | some cause => simp [read] at h
  | none => exact List.mem_of_find?_eq_some (Except.ok.inj h)

/-- A call that finds the pair it expects has written it. -/
lemma readPair_safe {batch : Batch} {expected : ExpectedPair}
    (hexpected : expected.channelId = batch.channelId) (h : Trying C k batch (w.eventsOf i)) :
    KeySafe C key i
      (fun outcome w' => Later i w w' ∧ Trying C k batch (w'.eventsOf i) ∧
        ∀ v, outcome = .ok (.matched v) → Wrote i batch w')
      (readCommittedWorkspacePair expected).run w := by
  refine KeySafe.query (fun _ _ => trivial) fun w₁ hown₁ ht₁ _ first _ => ?_
  have h₁ := (trying_quiet batch).after C h hown₁ (q := .parallel) rfl first
  have hlater₁ := Later.after C hown₁ ht₁ .parallel first
  change Bool at first
  cases first with
  | true =>
    refine KeySafe.ask (fun _ _ => trivial) fun w₂ hown₂ ht₂ _ a₂ _ => ?_
    have h₂ := (trying_quiet batch).after C h₁ hown₂ (q := .workspace _) rfl a₂
    have hlater₂ := hlater₁.trans (Later.after C hown₂ ht₂ _ a₂)
    refine KeySafe.ask (fun _ _ => trivial) fun w₃ hown₃ ht₃ hinv₃ a₃ _ => ?_
    have h₃ := (trying_quiet batch).after C h₂ hown₃ (q := .channel _) rfl a₃
    have hlater₃ := Later.after C hown₃ ht₃ (.channel _) a₃
    refine ⟨hlater₂.trans hlater₃, h₃, fun v hv => ?_⟩
    obtain ⟨r, hr, hid⟩ := pairRead_matched (Except.ok.inj hv)
    have hwrote := wrote_of_channel hinv₃ (hown₃ ▸ h₂) (mem_of_channel_read hr)
      (hid.trans hexpected)
    exact hwrote.later (Later.after C rfl (List.Subset.refl _) _ a₃)
  | false =>
    refine KeySafe.ask (fun _ _ => trivial) fun w₂ hown₂ ht₂ hinv₂ a₂ _ => ?_
    have h₂ := (trying_quiet batch).after C h₁ hown₂ (q := .channel _) rfl a₂
    have hlater₂ := hlater₁.trans (Later.after C hown₂ ht₂ _ a₂)
    refine KeySafe.ask (fun _ _ => trivial) fun w₃ hown₃ ht₃ _ a₃ _ => ?_
    have h₃ := (trying_quiet batch).after C h₂ hown₃ (q := .workspace _) rfl a₃
    have hlater₃ := Later.after C hown₃ ht₃ (.workspace _) a₃
    refine ⟨hlater₂.trans hlater₃, h₃, fun v hv => ?_⟩
    obtain ⟨r, hr, hid⟩ := pairRead_matched (Except.ok.inj hv)
    have hwrote := wrote_of_channel hinv₂ (hown₂ ▸ h₁) (mem_of_channel_read hr)
      (hid.trans hexpected)
    exact (hwrote.later (Later.after C rfl (List.Subset.refl _) _ a₂)).later hlater₃

/-! ## Looking up and replaying -/

lemma mem_creations_of_subset {trace trace' : List (Event lang Store)} {e : Event lang Store}
    (he : e ∈ creations key trace) (h : trace ⊆ trace') : e ∈ creations key trace' := by
  obtain ⟨hmem, hbatch⟩ := mem_creations.mp he
  exact mem_creations.mpr ⟨h hmem, hbatch⟩

/-- What a binding the call has found says. -/
structure Found (k : KeyedCreate) (i : ℕ) (b : BindingRow) (w : World lang Store) : Prop where
  creation : ∃ e ∈ creations k.key w.trace, ∃ batch, committedBatch e = some batch ∧
    batch.binding = some (k.key, b.requestDigest) ∧ b.workspaceId = batch.workspaceId
  live : b.status = .active → ∃ e ∈ w.eventsOf i, ¬Terminalized k.key e.before

/-- The workspace and the key that a call replays: those of a creation for its request. -/
structure Replayed (C : Crypto) (k : KeyedCreate) (i : ℕ) (workspace : WorkspaceRow)
    (apiKey : Token) (w : World lang Store) : Prop where
  creation : ∃ e ∈ creations k.key w.trace, ∃ batch, committedBatch e = some batch ∧
    batch.binding = some (k.key, k.requestDigest) ∧ workspace.id = batch.workspaceId ∧
      C.sha256Hex apiKey = batch.apiKeyHash
  nonempty : apiKey.isEmpty = false
  live : ∃ e ∈ w.eventsOf i, ¬Terminalized k.key e.before

lemma Replayed.later {workspace : WorkspaceRow} {apiKey : Token} {w' : World lang Store}
    (h : Replayed C k i workspace apiKey w) (hlater : Later i w w') :
    Replayed C k i workspace apiKey w' where
  creation := by
    obtain ⟨e, he, hbatch⟩ := h.creation
    exact ⟨e, mem_creations_of_subset he hlater.trace, hbatch⟩
  nonempty := h.nonempty
  live := by
    obtain ⟨e, he, hlive⟩ := h.live
    exact ⟨e, hlater.own he, hlive⟩

/-- The binding of a key is the one that is looked up. -/
lemma not_terminalized_of_active {s : Store} {b : BindingRow} (hb : b ∈ s.bindings)
    (hactive : b.status = .active) : ¬Terminalized b.key s := by
  rintro ⟨b', hb', hkey, hterminalized⟩
  obtain rfl : b' = b := Table.eq_of_clash hb' hb (by simp [clash, Keyed.key, hkey])
  simp [hactive] at hterminalized

/-- What an answered lookup leaves the call with. -/
lemma found_of_lookup {a : Option StorageError} {b : BindingRow} (hinv : KeyInv C k.key w)
    (h : (run C (.binding k.key) a w.store).1 = .ok (some b)) :
    Found k i b (w.after (machine C) i (.binding k.key) a) := by
  have hfind : w.store.binding? k.key = some b := by
    cases a with
    | some cause => simp [run, read] at h
    | none => exact Except.ok.inj h
  have hmem : b ∈ w.store.bindings := List.mem_of_find?_eq_some hfind
  have hkey : b.key = k.key := by simpa using List.find?_some hfind
  constructor
  · obtain ⟨e, he, hbound⟩ := hinv.bound b hmem hkey
    exact ⟨e, mem_creations_of_subset he (List.subset_cons_self _ _), hbound⟩
  · intro hactive
    refine ⟨_, World.event_mem_eventsOf _ _ _ _ _, ?_⟩
    rw [← hkey]
    exact not_terminalized_of_active hmem hactive

lemma lookup_event (C : Crypto) (key : BindingKey) (w : World lang Store) (i : ℕ)
    (a : Option StorageError) :
    (∀ found, (run C (.binding key) a w.store).1 = .ok found →
      lookup (w.event (machine C) i (.binding key) a) = some (key, found)) ∧
    ∀ e, (run C (.binding key) a w.store).1 = .error e →
      lookup (w.event (machine C) i (.binding key) a) = none ∧ ∃ cause, e = .storage cause := by
  cases a with
  | none =>
    refine ⟨fun found h => ?_, fun e h => by simp [run, read] at h⟩
    have hfind : w.store.binding? key = found := Except.ok.inj h
    rw [← hfind]
    rfl
  | some cause =>
    refine ⟨fun found h => by simp [run, read] at h, fun e h => ⟨rfl, cause, ?_⟩⟩
    exact (Except.error.inj h).symm

lemma recoverAmong_spec {d : Deployment} {workspace : WorkspaceRow} {families : List Family}
    {apiKey : Token} (h : recoverAmong C d k workspace families = .ok (some apiKey)) :
    C.sha256Hex apiKey = workspace.apiKeyHash ∧ apiKey.isEmpty = false := by
  induction families with
  | nil => simp [recoverAmong] at h
  | cons family families ih =>
    rw [recoverAmong] at h
    split at h
    · simp at h
    · next key hkey =>
      split at h
      · next hmatch =>
        obtain rfl : key = apiKey := by simpa using h
        simpa [and_comm] using hmatch
      · exact ih h

/-- A replay gives what the binding stands for. -/
lemma replayBinding_safe (d : Deployment) {b : BindingRow} {K : List (Event lang Store) → Prop}
    (hK : Quiet K) (hdigest : b.requestDigest = k.requestDigest) (hfound : Found k i b w)
    (h : K (w.eventsOf i)) :
    KeySafe C k.key i
      (fun outcome w' => Later i w w' ∧ K (w'.eventsOf i) ∧
        ∀ workspace apiKey, outcome = .ok (workspace, apiKey) →
          Replayed C k i workspace apiKey w')
      (replayBinding C d k b).run w := by
  unfold replayBinding
  rw [if_neg (by simpa using hdigest)]
  cases hstatus : b.status with
  | terminalized => exact ⟨.refl w, h, fun _ _ h => by simp at h⟩
  | active =>
    refine KeySafe.query (fun _ _ => trivial) fun w₁ hown₁ ht₁ hinv₁ a₁ _ => ?_
    have h₁ := hK.after C h hown₁ (q := .workspace _) rfl a₁
    have hlater := Later.after C hown₁ ht₁ (.workspace b.workspaceId) a₁
    cases hreply : (run C (.workspace b.workspaceId) a₁ w₁.store).1 with
    | error e => exact ⟨hlater, h₁, fun _ _ h => by simp at h⟩
    | ok existing =>
      cases existing with
      | none => exact ⟨hlater, h₁, fun _ _ h => by simp at h⟩
      | some existing =>
        show KeySafe _ _ _ _ (Throwing.ofExcept (recoverDeterministicApiKey C d k existing) >>=
          fun replayApiKey => _).run _
        cases hrecover : recoverDeterministicApiKey C d k existing with
        | error e => exact ⟨hlater, h₁, fun _ _ h => by simp at h⟩
        | ok replayApiKey =>
          cases replayApiKey with
          | none => exact ⟨hlater, h₁, fun _ _ h => by simp at h⟩
          | some replayApiKey =>
            refine ⟨hlater, h₁, fun workspace apiKey hok => ?_⟩
            obtain ⟨rfl, rfl⟩ : existing = workspace ∧ replayApiKey = apiKey := by
              simpa using Except.ok.inj hok
            have hfind : w₁.store.workspace? b.workspaceId = some existing := by
              change Option StorageError at a₁
              cases a₁ with
              | some cause => simp [run, read] at hreply
              | none => exact Except.ok.inj hreply
            obtain ⟨hsha, hnonempty⟩ := recoverAmong_spec hrecover
            obtain ⟨e, he, batch, hbatch, hbinding, hid⟩ := hfound.creation
            have hexisting : existing.id = b.workspaceId := by simpa using List.find?_some hfind
            have hstored := hinv₁.stored e (mem_creations_of_subset he ht₁) batch hbatch existing
              (List.mem_of_find?_eq_some hfind) (hexisting.trans hid)
            obtain ⟨e', he', hlive⟩ := hfound.live hstatus
            exact
              { creation := ⟨e, mem_creations_of_subset he hlater.trace, batch, hbatch,
                  hdigest ▸ hbinding, hexisting.trans hid, hsha.trans hstored⟩
                nonempty := hnonempty
                live := ⟨e', hlater.own he', hlive⟩ }

/-! ## Writing the pair -/

/-- What has been recovered for the call so far. -/
def Seen (C : Crypto) (k : KeyedCreate) (i : ℕ) (batch : Batch) (seen : Option Recovery)
    (w : World lang Store) : Prop :=
  ∀ recovery, seen = some recovery → Replayed C k i recovery.workspace recovery.apiKey w ∧
    (recovery.own = true → Wrote i batch w)

lemma Seen.later {batch : Batch} {seen : Option Recovery} {w' : World lang Store}
    (h : Seen C k i batch seen w) (hlater : Later i w w') : Seen C k i batch seen w' :=
  fun recovery hrecovery =>
    ⟨(h recovery hrecovery).1.later hlater, fun hown => ((h recovery hrecovery).2 hown).later hlater⟩

/-- What an attempt comes to: a result is the call's own pair or a replay, and the call knows what
it knew, unless its key was taken by another request. -/
structure Attempted (C : Crypto) (k : KeyedCreate) (i : ℕ) (batch : Batch) (w : World lang Store)
    {α : Type} (outcome : Except Failure α) (seen : Option Recovery) (w' : World lang Store) :
    Prop where
  later : Later i w w'
  recovered : Seen C k i batch seen w'
  wrote : ∀ a, outcome = .ok a → seen = none → Wrote i batch w'
  known : Trying C k batch (w'.eventsOf i) ∨ outcome = .error reusedKey

lemma Attempted.since {α : Type} {batch : Batch} {outcome : Except Failure α}
    {seen : Option Recovery} {w₁ w₂ : World lang Store} (hlater : Later i w w₁)
    (h : Attempted C k i batch w₁ outcome seen w₂) : Attempted C k i batch w outcome seen w₂ :=
  { h with later := hlater.trans h.later }

/-- A failure that leaves the call with what it knew. -/
lemma Attempted.error {α : Type} {batch : Batch} {seen : Option Recovery} {f : Failure}
    (hseen : Seen C k i batch seen w) (h : Trying C k batch (w.eventsOf i) ∨ f = reusedKey) :
    Attempted C k i batch w (.error f : Except Failure α) seen w where
  later := .refl w
  recovered := hseen
  wrote := nofun
  known := h.imp id (congrArg _)

/-- A batch that reports its rows has committed. -/
lemma commitsBy_of_ok {batch : Batch} {answer : Fate × Seconds} {s : Store} {result : WorkspaceWriteResult}
    (h : (runCreate batch answer.1 answer.2 s).1 = .ok result) :
    batch.commitsBy answer s = true := by
  rcases answer with ⟨fate, createdAt⟩
  cases fate with
  | fails cause | loses cause => simp [runCreate] at h
  | commits =>
    by_cases hconflicts : batch.conflicts createdAt s = true
    · simp [runCreate, hconflicts] at h
    · simp [Batch.commitsBy, Fate.reaches, hconflicts]

/-- A batch that has committed is the one that was issued. -/
lemma eq_of_committedBatch {batch b : Batch} {a : (Stmt.create batch).Answer}
    (h : committedBatch (w.event (machine C) i (.create batch) a) = some b) : b = batch := by
  have hite : (if batch.commitsBy a w.store then some batch else none) = some b := h
  split at hite
  · exact (Option.some.inj hite).symm
  · cases hite

lemma committedBatch_of_commits {batch : Batch} {a : (Stmt.create batch).Answer}
    (h : batch.commitsBy a w.store = true) :
    committedBatch (w.event (machine C) i (.create batch) a) = some batch := if_pos h

section Pair

variable {d : Deployment} {batch : Batch} {expected : ExpectedPair} {seen : Option Recovery}
  (hexpected : expected.channelId = batch.channelId)

include hexpected

/-- A pair that is accepted is the call's own. -/
lemma acceptCommittedPair_safe (assignedWorkspaceId : Option WorkspaceId)
    (h : Trying C k batch (w.eventsOf i)) :
    KeySafe C key i
      (fun outcome w' => Later i w w' ∧ Trying C k batch (w'.eventsOf i) ∧
        ∀ result, outcome = .ok result → Wrote i batch w')
      (acceptCommittedPair assignedWorkspaceId expected).run w := by
  refine Shared.Safe.throwing_bind (readPair_safe hexpected h) (fun committed w₁ h₁ => ?_)
    fun e w₁ h₁ => ⟨h₁.1, h₁.2.1, nofun⟩
  obtain ⟨hlater₁, htrying₁, hwrote₁⟩ := h₁
  cases committed with
  | matched value => exact ⟨hlater₁, htrying₁, fun _ _ => hwrote₁ value rfl⟩
  | unavailable => exact ⟨hlater₁, htrying₁, nofun⟩
  | mismatched =>
    cases assignedWorkspaceId with
    | none => exact ⟨hlater₁, htrying₁, nofun⟩
    | some id =>
      refine KeySafe.query (fun _ _ => trivial) fun w₂ hown₂ ht₂ _ a₂ _ => ?_
      have htrying₂ := (trying_quiet batch).after C htrying₁ hown₂ (q := .workspace _) rfl a₂
      have hlater₂ := hlater₁.trans (Later.after C hown₂ ht₂ (.workspace id) a₂)
      cases (run C (.workspace id) a₂ w₂.store).1 with
      | error e => exact ⟨hlater₂, htrying₂, nofun⟩
      | ok holder =>
        cases holder with
        | none => exact ⟨hlater₂, htrying₂, nofun⟩
        | some holder => exact ⟨hlater₂, htrying₂, nofun⟩

/-- A unique violation with the binding there ends in a replay or in a conflict. -/
lemma replayAfterConflict_safe {b : BindingRow} (hfound : Found k i b w)
    (hseen : Seen C k i batch seen w)
    (h : b.requestDigest = k.requestDigest → Trying C k batch (w.eventsOf i)) :
    KeySafe C k.key i (fun r w' => Attempted C k i batch w r.1 r.2 w')
      (replayAfterConflict C d k expected b seen) w := by
  by_cases hdigest : b.requestDigest = k.requestDigest
  · refine Shared.Safe.then
      (replayBinding_safe d (trying_quiet batch) hdigest hfound (h hdigest))
      fun replayed w₁ h₁ => ?_
    obtain ⟨hlater₁, htrying₁, hreplayed₁⟩ := h₁
    cases replayed with
    | error e => exact .since hlater₁ (.error (hseen.later hlater₁) (.inl htrying₁))
    | ok replay =>
      obtain ⟨existing, replayApiKey⟩ := replay
      refine Shared.Safe.then (readPair_safe hexpected htrying₁) fun committed w₂ h₂ => ?_
      obtain ⟨hlater₂, htrying₂, hwrote₂⟩ := h₂
      have hlater := hlater₁.trans hlater₂
      have hreplay := (hreplayed₁ existing replayApiKey rfl).later hlater₂
      -- Whatever the last read replies, what has been recovered stays.
      have hchannels : ∀ own : Bool, (own = true → Wrote i batch w₂) →
          KeySafe C k.key i (fun r w' => Attempted C k i batch w r.1 r.2 w')
            (Prog.ask (L := lang) (.channelsOf existing.id) >>=
              fun channels : Except Failure (List ChannelRow) =>
                Prog.done (channels.map fun rows => ([existing], rows),
                  some ⟨existing, replayApiKey, own⟩)) w₂ := by
        intro own hown
        refine KeySafe.ask (fun _ _ => trivial) fun w₃ hown₃ ht₃ _ a₃ _ => ?_
        have htrying₃ := (trying_quiet batch).after C htrying₂ hown₃ (q := .channelsOf _) rfl a₃
        have hlater₃ := Later.after C hown₃ ht₃ (.channelsOf existing.id) a₃
        refine ⟨hlater.trans hlater₃, fun recovery hrecovery => ?_, fun _ _ => nofun, .inl htrying₃⟩
        obtain rfl := Option.some.inj hrecovery
        exact ⟨hreplay.later hlater₃, fun h => (hown h).later hlater₃⟩
      cases committed with
      | error e => exact .since hlater (.error (hseen.later hlater) (.inl htrying₂))
      | ok committed =>
        cases committed with
        | unavailable => exact .since hlater (.error (hseen.later hlater) (.inl htrying₂))
        | matched value => exact hchannels true fun _ => hwrote₂ value rfl
        | mismatched => exact hchannels false fun h => by cases h
  · have hthrow : (replayBinding C d k b).run = Prog.done (.error reusedKey) := by
      unfold replayBinding
      rw [if_pos hdigest]
      rfl
    unfold replayAfterConflict
    rw [hthrow]
    exact .error hseen (.inr rfl)

/-- One attempt at the pair. -/
lemma writePair_safe {request : Request} (hkeyed : request.keyed = some k)
    (hbinding : batch.binding = some (k.key, k.requestDigest))
    (hseen : Seen C k i batch seen w) (h : Trying C k batch (w.eventsOf i)) :
    KeySafe C k.key i (fun r w' => Attempted C k i batch w r.1 r.2 w')
      (writePair C d request batch expected seen) w := by
  have hallowed : ∀ w', w'.eventsOf i = w.eventsOf i → Allowed C w' i (.create batch) := by
    intro w' hown
    refine ⟨⟨_, hbinding⟩, ?_⟩
    rw [hown]
    exact h.generated
  refine KeySafe.ask hallowed fun w₁ hown₁ ht₁ hinv₁ a₁ _ => ?_
  have hlater₁ := Later.after C hown₁ ht₁ (.create batch) a₁
  have hseen₁ := hseen.later hlater₁
  have htrying₁ : Trying C k batch ((w₁.after (machine C) i (.create batch) a₁).eventsOf i) := by
    rw [World.eventsOf_after_self, hown₁]
    exact h.cons (fun b hb => by simp [World.event, lookup] at hb) fun b hb =>
      eq_of_committedBatch hb
  cases hreply : (run C (.create batch) a₁ w₁.store).1 with
  | ok result =>
    exact ⟨hlater₁, hseen₁, fun _ _ _ => ⟨_, World.event_mem_eventsOf _ _ _ _ _,
      committedBatch_of_commits (commitsBy_of_ok hreply)⟩, .inl htrying₁⟩
  | error cause =>
    dsimp only
    rw [hkeyed]
    cases cause.isUniqueConstraintError with
    | false => exact .since hlater₁ (.error hseen₁ (.inl htrying₁))
    | true =>
      refine KeySafe.ask (fun _ _ => trivial) fun w₂ hown₂ ht₂ hinv₂ a₂ _ => ?_
      have hlater₂ := hlater₁.trans (Later.after C hown₂ ht₂ (.binding k.key) a₂)
      have hseen₂ := hseen.later hlater₂
      have hlookup := lookup_event C k.key w₂ i a₂
      have htrying₂ : (∀ b, lookup (w₂.event (machine C) i (.binding k.key) a₂) =
          some (k.key, some b) → b.requestDigest = k.requestDigest) →
          Trying C k batch ((w₂.after (machine C) i (.binding k.key) a₂).eventsOf i) := by
        intro hdigest
        rw [World.eventsOf_after_self, hown₂]
        exact htrying₁.cons hdigest fun b hb => by simp [World.event, committedBatch] at hb
      cases hfound : (run C (.binding k.key) a₂ w₂.store).1 with
      | error e =>
        have hnone := (hlookup.2 e hfound).1
        exact .since hlater₂ (.error hseen₂ (.inl (htrying₂ fun b hb => by simp [hnone] at hb)))
      | ok found =>
        have hevent := hlookup.1 found hfound
        cases found with
        | some b =>
          refine Shared.Safe.weaken (replayAfterConflict_safe hexpected
            (found_of_lookup hinv₂ hfound) hseen₂ fun hdigest => htrying₂ fun b' hb' => ?_)
            fun _ _ hr => hr.since hlater₂
          rw [hevent] at hb'
          obtain rfl : b = b' := Option.some.inj (Prod.mk.inj (Option.some.inj hb')).2
          exact hdigest
        | none =>
          have htrying := htrying₂ fun b hb => by
            rw [hevent] at hb
            cases hb
          refine Shared.Safe.then (acceptCommittedPair_safe hexpected _ htrying)
            fun accepted w₃ h₃ => ?_
          exact ⟨hlater₂.trans h₃.1, hseen₂.later h₃.1, fun a ha _ => h₃.2.2 a ha, .inl h₃.2.1⟩

/-- All attempts. -/
lemma retryD1Write_safe {request : Request} (hkeyed : request.keyed = some k)
    (hbinding : batch.binding = some (k.key, k.requestDigest)) (maxAttempts left : ℕ)
    (hseen : Seen C k i batch seen w) (h : Trying C k batch (w.eventsOf i)) :
    KeySafe C k.key i (fun r w' => Attempted C k i batch w r.1 r.2 w')
      (retryD1Write maxAttempts (writePair C d request batch expected) left seen) w := by
  induction left generalizing seen w with
  | zero =>
    refine Shared.Safe.then (writePair_safe hexpected hkeyed hbinding hseen h)
      fun attempt w₁ h₁ => ?_
    obtain ⟨outcome, seen₁⟩ := attempt
    cases outcome with
    | ok result => exact h₁
    | error f =>
      refine { h₁ with wrote := nofun, known := h₁.known.imp id fun hf => ?_ }
      obtain rfl : f = reusedKey := Except.error.inj hf
      rfl
  | succ left ih =>
    refine Shared.Safe.then (writePair_safe hexpected hkeyed hbinding hseen h)
      fun attempt w₁ h₁ => ?_
    obtain ⟨outcome, seen₁⟩ := attempt
    cases outcome with
    | ok result => exact h₁
    | error f =>
      dsimp only
      cases hcode : f.retryableD1ErrorCode with
      | none => exact h₁
      | some code =>
        rcases h₁.known with htrying | hf
        · exact Shared.Safe.weaken (ih h₁.recovered htrying) fun _ _ hr => hr.since h₁.later
        · obtain rfl : f = reusedKey := Except.error.inj hf
          cases hcode

/-- After the last attempt a pair that is there is the call's own. -/
lemma settleWrite_safe {outcome : Except Failure WorkspaceWriteResult}
    (hwrote : ∀ a, outcome = .ok a → seen = none → Wrote i batch w)
    (hknown : Trying C k batch (w.eventsOf i) ∨ outcome = .error reusedKey) :
    KeySafe C key i
      (fun settled w' => Later i w w' ∧
        (∀ result, settled = .ok result → seen = none → Wrote i batch w') ∧
        (Trying C k batch (w'.eventsOf i) ∨ settled = .error reusedKey))
      (settleWrite expected outcome).run w := by
  cases outcome with
  | ok result => exact ⟨.refl w, fun a ha => hwrote a ha, hknown.imp id nofun⟩
  | error f =>
    cases f with
    | retryExhausted attempts storageError =>
      rcases hknown with htrying | hf
      · refine Shared.Safe.throwing_bind (readPair_safe hexpected htrying)
          (fun committed w₁ h₁ => ?_) fun e w₁ h₁ => ⟨h₁.1, nofun, .inl h₁.2.1⟩
        obtain ⟨hlater₁, htrying₁, hwrote₁⟩ := h₁
        cases committed with
        | matched value => exact ⟨hlater₁, fun _ _ _ => hwrote₁ value rfl, .inl htrying₁⟩
        | mismatched => exact ⟨hlater₁, nofun, .inl htrying₁⟩
        | unavailable => exact ⟨hlater₁, nofun, .inl htrying₁⟩
      · cases hf
    | uniqueConstraint | storage cause | error message | coded e =>
      exact ⟨.refl w, nofun, hknown⟩

end Pair

/-! ## What a create comes to -/

/-- What a create promises that returns. -/
structure Returns (C : Crypto) (k : KeyedCreate) (i : ℕ) (r : Created) (w : World lang Store) :
    Prop where
  creation : ∃ e ∈ creations k.key w.trace, ∃ batch, committedBatch e = some batch ∧
    batch.binding = some (k.key, k.requestDigest) ∧ r.workspaceId = batch.workspaceId ∧
      ∃ apiKey, r.apiKey = some apiKey ∧ C.sha256Hex apiKey = batch.apiKeyHash
  created : r.created = true → ∃ e ∈ creations k.key w.trace, e.caller = i
  live : ∃ e ∈ w.eventsOf i, ¬Terminalized k.key e.before

/-- What a create promises that throws: the conflict, unless no answered lookup of it has found a
binding of another request; and it was answered one, unless it was its storage that failed. -/
def Fails (k : KeyedCreate) (i : ℕ) (f : Failure) (w : World lang Store) : Prop :=
  f = reusedKey ∨ (Undisputed k (w.eventsOf i) ∧
    (Answered k (w.eventsOf i) ∨ ∃ cause, f = .storage cause))

/-- What a create promises. -/
def Delivers (C : Crypto) (k : KeyedCreate) (i : ℕ) (outcome : Except Failure Created)
    (w : World lang Store) : Prop :=
  match outcome with
  | .ok r => Returns C k i r w
  | .error f => Fails k i f w

lemma Trying.fails {batch : Batch} (h : Trying C k batch (w.eventsOf i)) (f : Failure) :
    Fails k i f w := .inr ⟨h.undisputed, .inl h.answered⟩

/-- Before a batch commits there is no binding of its key. -/
lemma committed_before {e : Event lang Store} {batch : Batch} {digest : Hash}
    (h : committedBatch e = some batch) (hbinding : batch.binding = some (key, digest)) :
    ∀ b ∈ e.before.bindings, b.key ≠ key := by
  obtain ⟨caller, q, a, reply, before, after⟩ := e
  cases q with
  | create batch' =>
    have hite : (if batch'.commitsBy a before then some batch' else none) = some batch := h
    split at hite
    · next hcommits =>
      obtain rfl := Option.some.inj hite
      exact (Batch.free_of_commitsBy hbinding hcommits).key
    · cases hite
  | _ => cases h

lemma truthy_of_nonempty {text : String} (h : text.isEmpty = false) :
    truthy (some text) = some text := by
  simp [truthy, h]

lemma Replayed.returns {workspace : WorkspaceRow} {apiKey : Token} {created : Bool}
    (h : Replayed C k i workspace apiKey w)
    (hcreated : created = true → ∃ e ∈ creations k.key w.trace, e.caller = i) :
    Returns C k i (buildWorkspaceResponse workspace (some apiKey) created) w where
  creation := by
    obtain ⟨e, he, batch, hbatch, hbinding, hid, hsha⟩ := h.creation
    exact ⟨e, he, batch, hbatch, hbinding, hid, apiKey, truthy_of_nonempty h.nonempty, hsha⟩
  created := hcreated
  live := h.live

/-- A committed batch of the call is a creation. -/
lemma Wrote.creation {batch : Batch} {digest : Hash} (h : Wrote i batch w)
    (hbinding : batch.binding = some (key, digest)) :
    ∃ e ∈ creations key w.trace, e.caller = i ∧ e ∈ w.eventsOf i ∧
      committedBatch e = some batch := by
  obtain ⟨e, he, hbatch⟩ := h
  obtain ⟨hmem, hcaller⟩ := World.mem_eventsOf.mp he
  exact ⟨e, mem_creations.mpr ⟨hmem, batch, hbatch, Batch.boundTo_iff.mpr ⟨digest, hbinding⟩⟩,
    hcaller, he, hbatch⟩

/-- What is returned in the end. -/
lemma concludeCreate_delivers {expected : ExpectedPair} {apiKey : Token}
    {result : WorkspaceWriteResult} {recovery : Option Recovery} {batch : Batch}
    (hbinding : batch.binding = some (k.key, k.requestDigest))
    (hexpected : expected.workspaceId = batch.workspaceId)
    (hsha : C.sha256Hex apiKey = batch.apiKeyHash) (hnonempty : apiKey.isEmpty = false)
    (hseen : Seen C k i batch recovery w) (hwrote : recovery = none → Wrote i batch w)
    (htrying : Trying C k batch (w.eventsOf i)) :
    KeySafe C k.key i (Delivers C k i)
      (concludeCreate expected apiKey result recovery).run w := by
  cases recovery with
  | some recovery =>
    obtain ⟨hreplayed, hown⟩ := hseen recovery rfl
    refine hreplayed.returns fun hcreated => ?_
    obtain ⟨e, he, hcaller, -⟩ := (hown hcreated).creation hbinding
    exact ⟨e, he, hcaller⟩
  | none =>
    obtain ⟨e, he, hcaller, hevent, hcommitted⟩ := (hwrote rfl).creation hbinding
    unfold concludeCreate
    cases hpair : isExpectedWorkspacePair result expected with
    | false => exact htrying.fails identifierCollision
    | true =>
      cases hhead : result.1.head? with
      | none => simp [isExpectedWorkspacePair, hhead] at hpair
      | some workspace =>
        have hid : workspace.id = expected.workspaceId := by
          rw [isExpectedWorkspacePair, hhead] at hpair
          cases hchannel : result.2.head? with
          | none => simp [hchannel] at hpair
          | some channel =>
            simp only [hchannel, Bool.and_eq_true, beq_iff_eq] at hpair
            exact hpair.1.1.1.1.1
        exact
          { creation := ⟨e, he, batch, hcommitted, hbinding, hid.trans hexpected, apiKey,
              truthy_of_nonempty hnonempty, hsha⟩
            created := fun _ => ⟨e, he, hcaller⟩
            live := by
              refine ⟨e, hevent, ?_⟩
              rintro ⟨b, hb, hkey, -⟩
              exact committed_before hcommitted hbinding b hb hkey }

/-- What a keyed create knows when it starts to write: its lookup has found nothing. -/
structure Begun (k : KeyedCreate) (es : List (Event lang Store)) : Prop where
  undisputed : Undisputed k es
  answered : Answered k es
  nothing : ∀ e ∈ es, committedBatch e = none

lemma begun_quiet : Quiet (Begun k) := by
  intro e es hlookup hcommitted h
  refine ⟨h.undisputed.cons fun b hb => by simp [hlookup] at hb, h.answered.cons e, ?_⟩
  intro e' he'
  rcases List.mem_cons.mp he' with rfl | he'
  · exact hcommitted
  · exact h.nothing e' he'

lemma Begun.fails (h : Begun k (w.eventsOf i)) (f : Failure) : Fails k i f w :=
  .inr ⟨h.undisputed, .inl h.answered⟩

/-- With the id of its channel generated, a create is ready to write. -/
lemma Begun.trying (h : Begun k (w.eventsOf i)) {w' : World lang Store}
    (hown : w'.eventsOf i = w.eventsOf i) {batch : Batch}
    (hchannel : batch.channelId = C.generateId w'.store.generated) :
    Trying C k batch ((w'.after (machine C) i .generateId ()).eventsOf i) := by
  have hafter := begun_quiet.after C h hown (q := .generateId) rfl ()
  refine ⟨hafter.undisputed, hafter.answered, ⟨_, World.event_mem_eventsOf _ _ _ _ _, ?_⟩, ?_⟩
  · rw [hchannel]
    rfl
  · intro e he b hb
    simp [hafter.nothing e he] at hb

/-- The write of a new workspace. -/
lemma createNew_delivers (d : Deployment) {request : Request} (hkeyed : request.keyed = some k)
    (h : Begun k (w.eventsOf i)) :
    KeySafe C k.key i (Delivers C k i) (createNew C d request).run w := by
  have hid : KeySafe C k.key i (fun _ w' => Begun k (w'.eventsOf i))
      (newWorkspaceId request.workspaceId).run w := by
    cases request.workspaceId with
    | some id => exact h
    | none =>
      refine KeySafe.ask (f := Prog.done) (fun _ _ => trivial) fun w₁ hown₁ _ _ a₁ _ => ?_
      exact begun_quiet.after C h hown₁ (q := .generateId) rfl a₁
  refine Shared.Safe.throwing_bind hid (fun workspaceId w₁ h₁ => ?_) fun f _ h₁ => h₁.fails f
  have hkey : newApiKey C d workspaceId request.keyed = Throwing.ofExcept
      (deriveDeterministicApiKey C d k workspaceId (d.createFamily workspaceId)) := by
    rw [hkeyed]
    rfl
  rw [hkey]
  cases hderive : deriveDeterministicApiKey C d k workspaceId (d.createFamily workspaceId) with
  | error f => exact h₁.fails f
  | ok apiKey =>
    have hnonempty : apiKey.isEmpty = false := d.nonempty hderive
    refine KeySafe.query (fun _ _ => trivial) fun w₂ hown₂ _ _ a₂ _ => ?_
    -- From here on the call knows its batch.
    let batch : Batch := ⟨workspaceId, request.name, C.sha256Hex apiKey, request.expiresAt,
      C.generateId w₂.store.generated, request.keyed.map fun k => (k.key, k.requestDigest)⟩
    have hbinding : batch.binding = some (k.key, k.requestDigest) := by simp [batch, hkeyed]
    have htrying : Trying C k batch ((w₂.after (machine C) i .generateId a₂).eventsOf i) :=
      h₁.trying hown₂ rfl
    show KeySafe _ _ _ _ (ExceptT.run (Throwing.lift (retryD1Write MAX_ATTEMPTS
      (writePair C d request batch ⟨workspaceId, request.name, C.sha256Hex apiKey,
        C.generateId w₂.store.generated⟩) (MAX_ATTEMPTS - 1) none) >>= _)) _
    rw [Throwing.run_lift_bind]
    refine Shared.Safe.then (retryD1Write_safe rfl hkeyed hbinding MAX_ATTEMPTS
      (MAX_ATTEMPTS - 1) nofun htrying) fun written w₃ h₃ => ?_
    obtain ⟨outcome, recovery⟩ := written
    refine Shared.Safe.throwing_bind (settleWrite_safe rfl h₃.wrote h₃.known)
      (fun result w₄ h₄ => ?_) fun f w₄ h₄ => ?_
    · obtain ⟨hlater₄, hwrote₄, hknown₄⟩ := h₄
      exact concludeCreate_delivers hbinding rfl rfl hnonempty (h₃.recovered.later hlater₄)
        (hwrote₄ result rfl) (hknown₄.resolve_right nofun)
    · rcases h₄.2.2 with htrying₄ | hf
      · exact htrying₄.fails f
      · exact .inl (Except.error.inj hf)

/-- **One create.**  A create under the key keeps what is shared and delivers. -/
theorem createWorkspace_delivers (d : Deployment) {name : String} {options : CreateOptions}
    {request : Request} (hchecked : options.checked C name = .ok request)
    (hkeyed : request.keyed = some k) (hnew : w.eventsOf i = []) :
    KeySafe C k.key i (Delivers C k i) (createWorkspace C d name options).run w := by
  unfold createWorkspace
  rw [hchecked, Throwing.run_ofExcept_ok_bind, hkeyed]
  refine KeySafe.query (fun _ _ => trivial) fun w₁ hown₁ _ hinv₁ a₁ _ => ?_
  have hlookup := lookup_event C k.key w₁ i a₁
  have hes : (w₁.after (machine C) i (.binding k.key) a₁).eventsOf i =
      [w₁.event (machine C) i (.binding k.key) a₁] := by
    rw [World.eventsOf_after_self, hown₁, hnew]
  have hundisputed : (∀ b, lookup (w₁.event (machine C) i (.binding k.key) a₁) =
      some (k.key, some b) → b.requestDigest = k.requestDigest) →
      Undisputed k ((w₁.after (machine C) i (.binding k.key) a₁).eventsOf i) := by
    intro hdigest
    rw [hes]
    exact Undisputed.cons (fun _ he => by simp at he) hdigest
  cases hfound : (run C (.binding k.key) a₁ w₁.store).1 with
  | error f =>
    obtain ⟨hnone, hcause⟩ := hlookup.2 f hfound
    exact .inr ⟨hundisputed fun b hb => by simp [hnone] at hb, .inr hcause⟩
  | ok found =>
    have hevent := hlookup.1 found hfound
    have hanswered : Answered k ((w₁.after (machine C) i (.binding k.key) a₁).eventsOf i) := by
      rw [hes]
      exact ⟨_, List.mem_singleton_self _, found, hevent⟩
    cases found with
    | none =>
      refine createNew_delivers d hkeyed ⟨hundisputed fun b hb => ?_, hanswered, ?_⟩
      · rw [hevent] at hb
        cases hb
      · rw [hes]
        intro e he
        obtain rfl := List.mem_singleton.mp he
        rfl
    | some b =>
      by_cases hdigest : b.requestDigest = k.requestDigest
      · have hknown : Undisputed k ((w₁.after (machine C) i (.binding k.key) a₁).eventsOf i) := by
          refine hundisputed fun b' hb' => ?_
          rw [hevent] at hb'
          obtain rfl : b = b' := Option.some.inj (Prod.mk.inj (Option.some.inj hb')).2
          exact hdigest
        have hquiet : Quiet fun es => Undisputed k es ∧ Answered k es :=
          fun e es he _ h => ⟨h.1.cons fun b hb => by simp [he] at hb, h.2.cons e⟩
        refine Shared.Safe.throwing_bind (replayBinding_safe d hquiet hdigest
          (found_of_lookup hinv₁ hfound) ⟨hknown, hanswered⟩) (fun replay w₂ h₂ => ?_)
          fun f w₂ h₂ => .inr ⟨h₂.2.1.1, .inl h₂.2.1.2⟩
        obtain ⟨existing, replayApiKey⟩ := replay
        exact (h₂.2.2 existing replayApiKey rfl).returns nofun
      · have hthrow : (replayBinding C d k b).run = Prog.done (.error reusedKey) := by
          unfold replayBinding
          rw [if_pos hdigest]
          rfl
        show KeySafe _ _ _ _ ((replayBinding C d k b >>= _).run) _
        rw [Throwing.run_bind, hthrow]
        exact .inl rfl

/-! ## Deleting -/

/-- Every statement but a create may be issued by any call. -/
def Stmt.isCreate : Stmt → Bool
  | .create _ => true
  | _ => false

lemma allowed_of_isCreate {q : Stmt} (hq : q.isCreate = false) : Allowed C w i q := by
  cases q with
  | create batch => simp [Stmt.isCreate] at hq
  | _ => trivial

/-- The program issues no create. -/
abbrev CreatesNothing (p : Prog lang α) : Prop := p.Issues fun q : Stmt => q.isCreate = false

lemma query_issues {q : Stmt} (hq : q.isCreate = false) :
    CreatesNothing (query q).run := Prog.issues_ask hq

lemma retryD1Write_issues {ρ : Type} {write : ρ → Prog lang (Except Failure α × ρ)}
    (hwrite : ∀ seen, CreatesNothing (write seen)) (maxAttempts left : ℕ)
    (seen : ρ) :
    CreatesNothing (retryD1Write maxAttempts write left seen) := by
  induction left generalizing seen with
  | zero => exact (hwrite seen).bind fun _ => trivial
  | succ left ih =>
    refine (hwrite seen).bind fun attempt => ?_
    obtain ⟨outcome, seen'⟩ := attempt
    cases outcome with
    | ok a => trivial
    | error f =>
      dsimp only
      cases f.retryableD1ErrorCode with
      | none => trivial
      | some code => exact ih seen'

lemma writeOnly_issues {q : Stmt} (hq : q.isCreate = false) (seen : Unit) :
    CreatesNothing (writeOnly q seen) :=
  Prog.issues_ask_bind hq fun _ => trivial

lemma ofExcept_issues (x : Except Failure α) :
    CreatesNothing (Throwing.ofExcept x : Program α).run := by
  rw [Throwing.run_ofExcept]
  trivial

lemma requireDeletableStorage_issues (deletable : Bool) :
    CreatesNothing (requireDeletableStorage deletable).run := by
  cases deletable with
  | false => trivial
  | true => trivial

lemma settleDelete_issues (ids : List WorkspaceId) (outcome : Except Failure Unit) :
    CreatesNothing (settleDelete ids outcome).run := by
  cases outcome with
  | ok a => trivial
  | error f =>
    cases f with
    | retryExhausted attempts storageError =>
      refine Prog.issues_ask_bind (L := lang) (q := .remaining ids) rfl fun remaining => ?_
      match remaining with
      | .ok [] => trivial
      | .ok (_ :: _) => trivial
      | .error _ => trivial
    | uniqueConstraint | storage cause | error message | coded e => trivial

lemma deleteWorkspaceBatch_issues (ids : List WorkspaceId) :
    CreatesNothing (deleteWorkspaceBatch ids).run := by
  unfold deleteWorkspaceBatch
  rw [Throwing.run_lift_bind]
  exact (retryD1Write_issues (writeOnly_issues (q := .deleteWorkspaces ids) rfl) _ _ _).bind
    fun _ => settleDelete_issues ids _

lemma deleteWorkspace_issues (deletable : Bool) (id : WorkspaceId) :
    CreatesNothing (deleteWorkspace deletable id).run := by
  refine Throwing.issues_bind (requireDeletableStorage_issues deletable) fun _ => ?_
  refine Throwing.issues_bind (query_issues (q := .exceedsAtomicDeleteSize id) rfl) fun large => ?_
  change Bool at large
  cases large with
  | false => exact Throwing.issues_bind (deleteWorkspaceBatch_issues [id]) fun _ => trivial
  | true =>
    refine Throwing.issues_bind (query_issues (q := .newDate) rfl) fun now => ?_
    rw [Throwing.run_lift_bind]
    exact (retryD1Write_issues (writeOnly_issues (q := .tombstone id now) rfl) _ _ _).bind
      fun _ => Throwing.issues_bind (ofExcept_issues _) fun _ => trivial

lemma drainWorkspaceRows_issues (id : WorkspaceId) (pages : ℕ) :
    CreatesNothing (drainWorkspaceRows id pages).run := by
  induction pages with
  | zero => trivial
  | succ pages ih =>
    refine Throwing.issues_bind (query_issues (q := .channelPage id) rfl) fun ids => ?_
    change List ChannelId at ids
    cases ids with
    | nil => exact query_issues (q := .restDrained id) rfl
    | cons channelId rest =>
      exact Throwing.issues_bind (query_issues (q := .deleteChannels _) rfl) fun _ => ih

lemma reapWorkspace_issues (deletable : Bool) (id : WorkspaceId) (pages : ℕ) :
    CreatesNothing (reapWorkspace deletable id pages).run := by
  refine Throwing.issues_bind (requireDeletableStorage_issues deletable) fun _ => ?_
  refine Throwing.issues_bind (query_issues (q := .exceedsAtomicDeleteSize id) rfl) fun large => ?_
  change Bool at large
  cases large with
  | false => exact Throwing.issues_bind (deleteWorkspaceBatch_issues [id]) fun _ => trivial
  | true =>
    refine Throwing.issues_bind (drainWorkspaceRows_issues id pages) fun complete => ?_
    cases complete with
    | false => trivial
    | true => exact Throwing.issues_bind (deleteWorkspaceBatch_issues [id]) fun _ => trivial

end Calls

end Workspace
