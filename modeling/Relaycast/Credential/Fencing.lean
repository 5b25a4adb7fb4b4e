import Relaycast.Credential.Statements
import Relaycast.Interleaving.History

/-!
# The key of a workspace is fenced by its generation

Every write of a push is guarded twice: by the deletion fence of the id, and by the key and the
generation that the push has read.  A lost race therefore changes nothing, and the push looks again
or gives up.  What comes out is a row whose generation only grows, and strictly so with every change
of a fenced key (`KeyLater`), and answers that tell the truth about the call's own history
(`Honours`): a generation that is returned was stored beside the key that was pushed, and whoever is
refused has written nothing.
-/

namespace Credential

open Relational Interleaving

/-! ## What is claimed of a workspace key -/

/-- A later row of a workspace: the generation has not decreased, and it has increased if a fenced
key has changed. -/
structure KeyAdvances (row row' : Workspace) : Prop where
  generation : row.apiKeyGeneration ≤ row'.apiKeyGeneration
  changed : 0 < row.apiKeyGeneration → row'.apiKeyHash ≠ row.apiKeyHash →
    row.apiKeyGeneration < row'.apiKeyGeneration

/-- The event deletes the row of the workspace. -/
def Removes (W : WorkspaceId) (e : Event lang Store) : Prop :=
  e.before.workspace? W ≠ none ∧ e.after.workspace? W = none

/-- What is kept from one moment of a run to a later one. -/
structure KeyLater (W : WorkspaceId) (w w' : World lang Store) : Prop where
  /-- As long as it is not deleted, the row stays and advances. -/
  advances : ∃ new, w'.trace = new ++ w.trace ∧ ((∀ e ∈ new, ¬ Removes W e) →
    ∀ row, w.store.workspace? W = some row →
      ∃ row', w'.store.workspace? W = some row' ∧ KeyAdvances row row')
  /-- Once a deletion was committed the id stays fenced, and no row comes or changes. -/
  tombstoned : (w.store.fences W).tombstoned = true → (w'.store.fences W).tombstoned = true ∧
    ∀ row, w'.store.workspace? W = some row → w.store.workspace? W = some row

/-- The key was stored under the generation right after one of the events. -/
def StoredAt (id : WorkspaceId) (hash : Hash) (generation : ℕ) (events : List (Event lang Store)) :
    Prop :=
  ∃ e ∈ events, ∃ row, e.after.workspace? id = some row ∧ row.apiKeyHash = hash ∧
    row.apiKeyGeneration = generation

/-- The event stored the key under a larger generation than the one before. -/
def Installs (id : WorkspaceId) (hash : Hash) (generation : ℕ) (e : Event lang Store) : Prop :=
  ∃ row row', e.before.workspace? id = some row ∧ e.after.workspace? id = some row' ∧
    row.apiKeyGeneration < generation ∧ row'.apiKeyHash = hash ∧
      row'.apiKeyGeneration = generation

/-- The event changed no table and no fence. -/
def Quiet (e : Event lang Store) : Prop :=
  e.after.workspaces = e.before.workspaces ∧ e.after.principals = e.before.principals ∧
    e.after.upgrades = e.before.upgrades ∧ e.after.fences = e.before.fences

/-- The answer of a push, against what the call has executed. -/
def Honours (C : Crypto) (id : WorkspaceId) (input : PushWorkspaceKeyInput)
    (events : List (Event lang Store)) : PushResult → Prop
  | .ok r => ∀ key, input.apiKey = some key →
      StoredAt id (C.sha256Hex key) r.apiKeyGeneration events ∧
        ∀ asked, input.keyGeneration = some asked → asked ≤ r.apiKeyGeneration
  | .error _ => ∀ e ∈ events, Quiet e

/-- The call changes the key of `W` by pushes and deletions only. -/
def Call.Spares (W : WorkspaceId) : Call → Prop
  | .rotateWorkspaceKey id _ => id ≠ W
  | .upgradeLegacyCredential args => args.kind = .workspace → args.principalId ≠ W
  | _ => True

/-- Any number of pushes to and deletions of `W`, beside anything else. -/
def pushesAndDeletions (W : WorkspaceId) : Regime lang Store Call where
  calls := Call.Spares W
  permits _ _ _ := True
  crashes := True

/-! ## One statement -/

/-- The statement changes the row of `W` only as pushes and deletions do. -/
def Stmt.Spares (W : WorkspaceId) : Stmt → Prop
  | .rotateKey id .. => id ≠ W
  | .swapAndRecord u => u.kind = .workspace → u.principalId ≠ W
  | _ => True

lemma Call.Spares.issues {W : WorkspaceId} {c : Call} (hc : c.Spares W) {q : Stmt}
    (hq : c.mayIssue q) : q.Spares W := by
  cases q with
  | rotateKey id hash grace =>
    cases c with
    | rotateWorkspaceKey id' => exact (show id = id' from hq) ▸ hc
    | deleteInternalWorkspace => simp [Call.mayIssue] at hq
    | _ => exact hq.elim
  | swapAndRecord u =>
    cases c with
    | upgradeLegacyCredential args =>
      obtain ⟨hkind, hid, -⟩ := hq
      intro hworkspace
      exact hid ▸ hc (hkind ▸ hworkspace)
    | deleteInternalWorkspace => simp [Call.mayIssue] at hq
    | _ => exact hq.elim
  | _ => trivial

lemma KeyAdvances.refl (row : Workspace) : KeyAdvances row row :=
  ⟨le_rfl, fun _ h => absurd rfl h⟩

lemma KeyAdvances.trans {row row' row'' : Workspace} (h : KeyAdvances row row')
    (h' : KeyAdvances row' row'') : KeyAdvances row row'' where
  generation := h.generation.trans h'.generation
  changed hpos hne := by
    have hle := h.generation
    have hle' := h'.generation
    by_cases hsame : row'.apiKeyHash = row.apiKeyHash
    · have hlt := h'.changed (by omega) (hsame ▸ hne)
      omega
    · have hlt := h.changed hpos hsame
      omega

variable {C : Crypto} {W : WorkspaceId}

/-- A statement of a push or a deletion lets the row advance, unless it deletes it. -/
lemma keyAdvances_run {q : Stmt} (hq : q.Spares W) (a : q.Answer) {s : Store} {row row' : Workspace}
    (hrow : s.workspace? W = some row) (hrow' : (run C q a s).2.workspace? W = some row') :
    KeyAdvances row row' := by
  have hstep := run_workspace? C q a s W
  rw [hrow'] at hstep
  generalize hafter : some row' = after? at hstep
  cases hstep with
  | same =>
    obtain rfl : row = row' := Option.some.inj (hrow.symm.trans hafter.symm)
    exact .refl row
  | created hash generation _ hnone => simp [hnone] at hrow
  | bumped hash generation _ hold hhash hgen =>
    obtain rfl := Option.some.inj (hrow.symm.trans hold)
    obtain rfl := Option.some.inj hafter
    exact ⟨hgen.le, fun _ _ => hgen⟩
  | changed oldHash hash _ hold hhash hgen =>
    obtain rfl := Option.some.inj (hrow.symm.trans hold)
    obtain rfl := Option.some.inj hafter
    refine ⟨le_rfl, fun hpos _ => ?_⟩
    omega
  | changedFenced oldHash hash generation grace _ hold hhash hgen =>
    obtain rfl := Option.some.inj (hrow.symm.trans hold)
    obtain rfl := Option.some.inj hafter
    exact ⟨hgen.le, fun _ _ => hgen⟩
  | rotated => exact absurd rfl hq
  | upgraded u hkind hid => exact absurd hid (hq hkind)
  | deleted => simp at hafter

/-- A fence that is up keeps rows from coming and changing. -/
lemma workspace?_run_of_fenced {q : Stmt} (hq : q.Spares W) (a : q.Answer) {s : Store}
    (hfence : s.fenced W = true) {row : Workspace}
    (hrow : (run C q a s).2.workspace? W = some row) : s.workspace? W = some row := by
  have hstep := run_workspace? C q a s W
  rw [hrow] at hstep
  generalize hafter : some row = after? at hstep ⊢
  cases hstep with
  | same => rfl
  | created _ _ hopen | bumped _ _ hopen | changed _ _ hopen | changedFenced _ _ _ _ hopen =>
    simp [hopen] at hfence
  | rotated => exact absurd rfl hq
  | upgraded u hkind hid => exact absurd hid (hq hkind)
  | deleted => simp at hafter

/-- A committed deletion is never forgotten. -/
lemma tombstoned_run (q : Stmt) (a : q.Answer) {s : Store}
    (h : (s.fences W).tombstoned = true) : ((run C q a s).2.fences W).tombstoned = true := by
  have hset : ∀ (s : Store) id d, (id = W → d.tombstoned = true) →
      (s.fences W).tombstoned = true → ((s.setFence id d).fences W).tombstoned = true := by
    intro s id d hd hs
    by_cases hid : id = W
    · subst hid
      simpa [Store.setFence] using hd rfl
    · simpa [Store.setFence, Function.update_of_ne (Ne.symm hid)] using hs
  cases q with
  | beginDeletion id => exact hset _ _ _ (fun hid => hid ▸ h) h
  | commitDeletion id => exact hset _ _ _ (fun _ => by simp) h
  | releaseDeletion id => exact hset _ _ _ (fun hid => by simp [hid, h]) h
  | createWorkspace id hash generation =>
    dsimp only [run, Store.createWorkspace]
    split_ifs <;> exact h
  | bumpGeneration | changeKey | changeKeyFenced =>
    dsimp only [run, Store.bumpGeneration, Store.changeKey, Store.changeKeyFenced,
      Store.guardedUpdate]
    split_ifs <;> exact h
  | rotateKey =>
    dsimp only [run, Store.rotateKey]
    split_ifs <;> exact h
  | rotatePrincipal =>
    dsimp only [run, Store.rotatePrincipal]
    split_ifs <;> exact h
  | swapAndRecord u =>
    dsimp only [run, Store.swapAndRecord, Store.graceRecordAfterSwap, Store.swapPrincipalHash]
    split
    · exact h
    · split <;> split <;> exact h
  | deleteWorkspace id =>
    dsimp only [run]
    split_ifs <;> exact h
  | _ => exact h

lemma KeyLater.refl (w : World lang Store) : KeyLater W w w :=
  ⟨⟨[], rfl, fun _ row hrow => ⟨row, hrow, .refl row⟩⟩, fun h => ⟨h, fun _ hrow => hrow⟩⟩

lemma KeyLater.trans {w₁ w₂ w₃ : World lang Store} (h : KeyLater W w₁ w₂)
    (h' : KeyLater W w₂ w₃) : KeyLater W w₁ w₃ where
  advances := by
    obtain ⟨new, htrace, hrow⟩ := h.advances
    obtain ⟨new', htrace', hrow'⟩ := h'.advances
    refine ⟨new' ++ new, by rw [htrace', htrace, List.append_assoc], fun hnew row hold => ?_⟩
    obtain ⟨row', hmid, hadv⟩ := hrow (fun e he => hnew e (List.mem_append_right _ he)) row hold
    obtain ⟨row'', hlast, hadv'⟩ :=
      hrow' (fun e he => hnew e (List.mem_append_left _ he)) row' hmid
    exact ⟨row'', hlast, hadv.trans hadv'⟩
  tombstoned hw := by
    obtain ⟨hmid, hrow⟩ := h.tombstoned hw
    obtain ⟨hlast, hrow'⟩ := h'.tombstoned hmid
    exact ⟨hlast, fun row hold => hrow row (hrow' row hold)⟩

/-- **One statement.** -/
lemma keyLater_after {q : Stmt} (hq : q.Spares W) (w : World lang Store) (i : ℕ) (a : q.Answer) :
    KeyLater W w (w.after (machine C) i q a) where
  advances := by
    refine ⟨[w.event (machine C) i q a], rfl, fun hnew row hrow => ?_⟩
    cases hrow' : (w.after (machine C) i q a).store.workspace? W with
    | none =>
      have hgone : Removes W (w.event (machine C) i q a) := ⟨by simp [hrow], hrow'⟩
      exact absurd hgone (hnew _ List.mem_cons_self)
    | some row' => exact ⟨row', rfl, keyAdvances_run hq a hrow hrow'⟩
  tombstoned h :=
    have hfence : w.store.fenced W = true := by simp [Store.fenced, DeletionState.present, h]
    ⟨tombstoned_run q a h, fun _ hrow => workspace?_run_of_fenced hq a hfence hrow⟩

/-! ## A push -/

section Push

variable {i : ℕ} {permits : World lang Store → ℕ → Stmt → Prop} {α : Type}
  {Q : α → World lang Store → Prop}

/-- The rules of a push: what it knows is its own history. -/
abbrev PushSafe (C : Crypto) (permits : World lang Store → ℕ → Stmt → Prop) (i : ℕ) {α : Type}
    (Q : α → World lang Store → Prop) (p : Prog lang α) (w : World lang Store) : Prop :=
  (Shared.ofInv fun _ => True).Safe (machine C) permits i Q p w

/-- The rule of a statement. -/
lemma PushSafe.ask {q : Stmt} {f : q.Reply → Prog lang α} {w : World lang Store}
    (h : ∀ (s : Store) (a : q.Answer) w', w'.store = (run C q a s).2 →
      w'.eventsOf i = ⟨i, q, a, (run C q a s).1, s, (run C q a s).2⟩ :: w.eventsOf i →
        PushSafe C permits i Q (f (run C q a s).1) w') :
    PushSafe C permits i Q (await q >>= f) w := by
  refine Shared.Safe.ask fun w' hown _ _ _ a => ⟨⟨trivial, trivial⟩, fun r hr => ?_⟩
  subst hr
  apply h w'.store a _ rfl
  rw [World.eventsOf_after_self, hown]
  rfl

/-- The call has written nothing. -/
def Clean (i : ℕ) (w : World lang Store) : Prop := ∀ e ∈ w.eventsOf i, Quiet e

lemma quiet_of_reads {q : Stmt} (hq : q.reads) (a : q.Answer) (s : Store) :
    Quiet ⟨i, q, a, (run C q a s).1, s, (run C q a s).2⟩ := by
  cases q <;> first | exact hq.elim | exact ⟨rfl, rfl, rfl, rfl⟩

/-- A guarded update that was not applied is quiet. -/
lemma quiet_of_guardedUpdate {q : Stmt} {a : q.Answer} {r : q.Reply} {s : Store}
    {id : WorkspaceId} {p : Workspace → Bool} {f : Workspace → Workspace}
    {hf : ∀ w, (f w).id = w.id} {outcome : WriteOutcome}
    (hout : (s.guardedUpdate id p f hf).1 = outcome) (hne : outcome ≠ .applied) :
    Quiet ⟨i, q, a, r, s, (s.guardedUpdate id p f hf).2⟩ := by
  have hsame : (s.guardedUpdate id p f hf).2 = s := Store.guardedUpdate_eq_self (hout ▸ hne)
  simp only [Quiet, hsame, and_self]

lemma Clean.cons {w w' : World lang Store} {e : Event lang Store} (h : Clean i w)
    (hown : w'.eventsOf i = e :: w.eventsOf i) (he : Quiet e) : Clean i w' := by
  intro e' he'
  rcases List.mem_cons.mp (hown ▸ he') with rfl | he'
  · exact he
  · exact h e' he'

lemma StoredAt.cons {id : WorkspaceId} {hash : Hash} {generation : ℕ}
    {events : List (Event lang Store)} (h : StoredAt id hash generation events)
    (e : Event lang Store) : StoredAt id hash generation (e :: events) := by
  obtain ⟨e', he', hrow⟩ := h
  exact ⟨e', List.mem_cons_of_mem _ he', hrow⟩

/-- The row as the latest event left it. -/
lemma StoredAt.head {id : WorkspaceId} {w : World lang Store} {e : Event lang Store}
    {events : List (Event lang Store)} (hown : w.eventsOf i = e :: events) {row : Workspace}
    (hrow : e.after.workspace? id = some row) :
    StoredAt id row.apiKeyHash row.apiKeyGeneration (w.eventsOf i) :=
  ⟨e, hown ▸ List.mem_cons_self, row, hrow, rfl, rfl⟩

/-- A key the latest event stored. -/
lemma exists_installs {id : WorkspaceId} {w : World lang Store} {e : Event lang Store}
    {events : List (Event lang Store)} (hown : w.eventsOf i = e :: events) {row row' : Workspace}
    (hrow : e.before.workspace? id = some row) (hrow' : e.after.workspace? id = some row')
    (hlt : row.apiKeyGeneration < row'.apiKeyGeneration) :
    ∃ e ∈ w.eventsOf i, Installs id row'.apiKeyHash row'.apiKeyGeneration e :=
  ⟨e, hown ▸ List.mem_cons_self, row, row', hrow, hrow', hlt, rfl, rfl⟩

/-- The row a push holds was read by it. -/
def RowRead (id : WorkspaceId) (row : Option KeyRow) (events : List (Event lang Store)) : Prop :=
  ∀ r, row = some r → StoredAt id r.apiKeyHash r.apiKeyGeneration events

/-- What a push knows between two attempts. -/
structure Looking (id : WorkspaceId) (input : PushWorkspaceKeyInput) (i : ℕ)
    (keyGeneration : Option ℕ) (row : Option KeyRow) (w : World lang Store) : Prop where
  clean : Clean i w
  read : RowRead id row (w.eventsOf i)
  asked : input.apiKey ≠ none → keyGeneration = input.keyGeneration

/-- The answer of a push, and where a key it minted was stored. -/
structure Answered (C : Crypto) (id : WorkspaceId) (input : PushWorkspaceKeyInput)
    (events : List (Event lang Store)) (result : PushResult) : Prop where
  honours : Honours C id input events result
  minted : ∀ r key, result = .ok r → r.mintedApiKey = some key →
    ∃ e ∈ events, Installs id (C.sha256Hex key) r.apiKeyGeneration e

lemma Clean.answered {w : World lang Store} (h : Clean i w) {id : WorkspaceId}
    {input : PushWorkspaceKeyInput} {e : CodedError} :
    Answered C id input (w.eventsOf i) (.error e) :=
  ⟨h, fun _ _ heq => by simp at heq⟩

variable (p : Push)

/-- What an attempt may end in. -/
def AttemptOk (C : Crypto) (i : ℕ) : Push.Attempt → World lang Store → Prop
  | .answer result, w => Answered C p.workspaceId p.input (w.eventsOf i) result
  | .again keyGeneration row, w => Looking p.workspaceId p.input i keyGeneration row w

/-- The push's digest is the one of its key, and this is the caller's if there is one. -/
def Digested (C : Crypto) : Prop :=
  p.apiKeyHash = C.sha256Hex p.apiKey ∧ ∀ key, p.input.apiKey = some key → p.apiKey = key

variable {p}

lemma answered_result {events : List (Event lang Store)} (hkey : Digested p C) {generation : ℕ}
    (h : StoredAt p.workspaceId p.apiKeyHash generation events)
    (hasked : ∀ asked, p.input.apiKey ≠ none → p.input.keyGeneration = some asked →
      asked ≤ generation) (created : Bool) {minted : Bool}
    (hminted : minted = true → ∃ e ∈ events, Installs p.workspaceId p.apiKeyHash generation e) :
    Answered C p.workspaceId p.input events (p.result created generation minted) where
  honours key hsome := by
    rw [← hkey.2 key hsome, ← hkey.1]
    exact ⟨h, fun asked hgen => hasked asked (by simp [hsome]) hgen⟩
  minted r key hr hmint := by
    obtain rfl := Except.ok.inj hr
    by_cases hm : minted = true
    · obtain rfl : p.apiKey = key := by simpa [hm] using hmint
      exact hkey.1 ▸ hminted hm
    · simp [hm] at hmint

/-- What the reading of a row gives. -/
lemma rowRead_readKeyRow {id : WorkspaceId} {s : Store} {e : Event lang Store}
    {events : List (Event lang Store)} (he : e.after = s) :
    RowRead id ((s.workspace? id).map fun w => ⟨w.id, w.apiKeyHash, w.apiKeyGeneration⟩)
      (e :: events) := by
  intro r hr
  obtain ⟨row, hrow, rfl⟩ := Option.map_eq_some_iff.mp hr
  exact ⟨e, List.mem_cons_self, row, he ▸ hrow, rfl, rfl⟩

variable {keyGeneration : Option ℕ} {w : World lang Store}

lemma reread_safe (hclean : Clean i w)
    (hasked : p.input.apiKey ≠ none → keyGeneration = p.input.keyGeneration) :
    PushSafe C permits i (AttemptOk p C i) (p.reread keyGeneration) w := by
  refine PushSafe.ask fun s a w' _ hown => ⟨hclean.cons hown ⟨rfl, rfl, rfl, rfl⟩, ?_, hasked⟩
  rw [hown]
  exact rowRead_readKeyRow rfl

lemma create_safe (hkey : Digested p C) (hclean : Clean i w)
    (hasked : p.input.apiKey ≠ none → keyGeneration = p.input.keyGeneration) :
    PushSafe C permits i (AttemptOk p C i) (p.create keyGeneration) w := by
  unfold Push.create
  split
  · exact hclean.answered
  · refine PushSafe.ask fun s a w₁ _ hown₁ => ?_
    have hclean₁ := hclean.cons hown₁ ⟨rfl, rfl, rfl, rfl⟩
    split
    · exact hclean₁.answered
    · refine PushSafe.ask fun s a w₂ _ hown₂ => ?_
      rcases s.createWorkspace_cases p.workspaceId p.apiKeyHash (keyGeneration.getD 0) with
        ⟨hout, hne⟩ | ⟨-, hnone, -, -, hout⟩
      · have hclean₂ : Clean i w₂ := by
          refine hclean₁.cons hown₂ ?_
          simp only [Quiet, run, hout, and_self]
        split
        · exact hclean₂.answered
        · next heq => exact absurd heq hne
        · exact hclean₂.answered
        · refine PushSafe.ask fun s a w₃ _ hown₃ => ?_
          have hclean₃ := hclean₂.cons hown₃ ⟨rfl, rfl, rfl, rfl⟩
          split
          · exact hclean₃.answered
          · next fresh hfresh =>
            refine ⟨hclean₃, ?_, hasked⟩
            rw [← hfresh, hown₃]
            exact rowRead_readKeyRow rfl
      · have hcreated : (run C (.createWorkspace p.workspaceId p.apiKeyHash
            (keyGeneration.getD 0)) a s).1 = .created := by rw [run, hout]
        rw [hcreated]
        have hrow : (run C (.createWorkspace p.workspaceId p.apiKeyHash
            (keyGeneration.getD 0)) a s).2.workspace? p.workspaceId =
              some ⟨p.workspaceId, p.apiKeyHash, none, none, keyGeneration.getD 0⟩ := by
          rw [run, hout, Store.workspace?_insert s hnone, if_pos rfl]
        refine answered_result hkey (.head hown₂ hrow) (fun asked hsome hgen => ?_) true (by simp)
        simp [hasked hsome, hgen]

lemma repush_safe (hkey : Digested p C) (hclean : Clean i w) {row : KeyRow}
    (hread : StoredAt p.workspaceId p.apiKeyHash row.apiKeyGeneration (w.eventsOf i))
    (hasked : p.input.apiKey ≠ none → keyGeneration = p.input.keyGeneration) :
    PushSafe C permits i (AttemptOk p C i) (p.repush keyGeneration row.apiKeyGeneration) w := by
  unfold Push.repush
  split
  · refine answered_result hkey hread (fun asked hsome hgen => ?_) false (by simp)
    simp [hgen] at hasked
    exact absurd hasked hsome
  · rename_i generation
    split
    · refine PushSafe.ask fun s a w₁ _ hown₁ => ?_
      split
      · next hout => exact (hclean.cons hown₁ (quiet_of_guardedUpdate hout (by simp))).answered
      · next hout =>
        exact reread_safe (hclean.cons hown₁ (quiet_of_guardedUpdate hout (by simp))) hasked
      · next hout =>
        obtain ⟨row', -, hp, hrow'⟩ := Store.guardedUpdate_applied hout
        obtain ⟨hhash, -⟩ : row'.apiKeyHash = p.apiKeyHash ∧ row'.apiKeyGeneration < generation := by
          simpa using hp
        refine answered_result hkey (hhash ▸ .head hown₁ hrow') (fun asked hsome hgen => ?_) false (by simp)
        have heq := hasked hsome
        rw [hgen] at heq
        exact (Option.some.inj heq).ge
    · next hle =>
      refine answered_result hkey hread (fun asked hsome hgen => ?_) false (by simp)
      have heq := hasked hsome
      rw [hgen] at heq
      have := Option.some.inj heq
      omega

lemma changeGenerationless_safe (hkey : Digested p C) (hclean : Clean i w) (row : KeyRow)
    (hasked : p.input.apiKey ≠ none → p.input.keyGeneration = none) :
    PushSafe C permits i (AttemptOk p C i) (p.changeGenerationless row) w := by
  unfold Push.changeGenerationless
  split
  · exact hclean.answered
  · refine PushSafe.ask fun s a w₁ _ hown₁ => ?_
    split
    · next hout => exact (hclean.cons hown₁ (quiet_of_guardedUpdate hout (by simp))).answered
    · next hout =>
      exact reread_safe (hclean.cons hown₁ (quiet_of_guardedUpdate hout (by simp)))
        fun hsome => (hasked hsome).symm
    · next hout =>
      obtain ⟨row', -, hp, hrow'⟩ := Store.guardedUpdate_applied hout
      obtain ⟨⟨-, hgen⟩, -⟩ : (row'.apiKeyHash = row.apiKeyHash ∧ row'.apiKeyGeneration = 0) ∧
          s.liveElsewhere p.apiKeyHash p.workspaceId = false := by simpa using hp
      refine answered_result hkey (hgen ▸ .head hown₁ hrow') (fun asked hsome hgen => ?_) false (by simp)
      simp [hasked hsome] at hgen

/-- After a change that missed. -/
lemma lost_ok (hkey : Digested p C) {generation : ℕ} {fresh : Option KeyRow}
    (hclean : Clean i w) (hread : RowRead p.workspaceId fresh (w.eventsOf i))
    (hasked : p.input.apiKey ≠ none → some generation = p.input.keyGeneration) :
    AttemptOk p C i (p.lost generation fresh) w := by
  unfold Push.lost
  split
  · rename_i fresh
    split_ifs with hsame hstale
    · refine answered_result hkey (hsame.1 ▸ hread fresh rfl) (fun asked hsome hgen => ?_) false (by simp)
      have heq := hasked hsome
      rw [hgen] at heq
      exact Option.some.inj heq ▸ hsame.2
    · exact hclean.answered
    · exact ⟨hclean, hread, hasked⟩
  · exact ⟨hclean, hread, hasked⟩

lemma changeFenced_safe (hkey : Digested p C) (hclean : Clean i w) (generation : ℕ)
    (row : KeyRow) (hasked : p.input.apiKey ≠ none → some generation = p.input.keyGeneration) :
    PushSafe C permits i (AttemptOk p C i) (p.changeFenced generation row) w := by
  unfold Push.changeFenced
  split
  · exact hclean.answered
  · refine PushSafe.ask fun s a w₁ _ hown₁ => ?_
    split
    · next hout => exact (hclean.cons hown₁ (quiet_of_guardedUpdate hout (by simp))).answered
    · next hout =>
      have hclean₁ := hclean.cons hown₁ (quiet_of_guardedUpdate hout (by simp))
      refine PushSafe.ask fun s a w₂ _ hown₂ => ?_
      refine lost_ok hkey (hclean₁.cons hown₂ ⟨rfl, rfl, rfl, rfl⟩) ?_ hasked
      rw [hown₂]
      exact rowRead_readKeyRow rfl
    · next hout =>
      obtain ⟨row', hbefore, hp, hrow'⟩ := Store.guardedUpdate_applied hout
      obtain ⟨⟨-, hgen⟩, -⟩ : (row'.apiKeyHash = row.apiKeyHash ∧
          row'.apiKeyGeneration < generation) ∧
            s.liveElsewhere p.apiKeyHash p.workspaceId = false := by simpa using hp
      refine answered_result hkey (.head hown₁ hrow') (fun asked hsome hgen => ?_) false
        (fun _ => exists_installs hown₁ hbefore hrow' hgen)
      have heq := hasked hsome
      rw [hgen] at heq
      exact (Option.some.inj heq).ge

lemma change_safe (hkey : Digested p C) (hclean : Clean i w) (row : KeyRow)
    (hasked : p.input.apiKey ≠ none → keyGeneration = p.input.keyGeneration) :
    PushSafe C permits i (AttemptOk p C i) (p.change keyGeneration row) w := by
  refine PushSafe.ask fun s a w₁ _ hown₁ => ?_
  have hclean₁ := hclean.cons hown₁ ⟨rfl, rfl, rfl, rfl⟩
  split
  · exact hclean₁.answered
  · split
    · next hderived =>
      -- The generation of a minted key is nobody's request.
      split
      · exact hclean₁.answered
      · refine changeFenced_safe hkey hclean₁ _ row fun hsome => ?_
        simp [Push.derivedGeneration, Push.minted] at hderived
        exact absurd hderived.1 hsome
    · split
      · exact changeGenerationless_safe hkey hclean₁ row fun hsome => (hasked hsome).symm
      · exact changeFenced_safe hkey hclean₁ _ row hasked

/-- **One attempt.** -/
lemma attempt_safe (hkey : Digested p C) {row : Option KeyRow}
    (h : Looking p.workspaceId p.input i keyGeneration row w) :
    PushSafe C permits i (AttemptOk p C i) (p.attempt keyGeneration row) w := by
  refine PushSafe.ask fun s a w₁ _ hown₁ => ?_
  have hclean₁ := h.clean.cons hown₁ ⟨rfl, rfl, rfl, rfl⟩
  split
  · split
    · exact create_safe hkey hclean₁ h.asked
    · rename_i row
      split
      · next hsame =>
        have hread : StoredAt p.workspaceId p.apiKeyHash row.apiKeyGeneration (w₁.eventsOf i) := by
          rw [hown₁, ← hsame]
          exact (h.read row rfl).cons _
        exact repush_safe hkey hclean₁ hread h.asked
      · exact change_safe hkey hclean₁ row h.asked
  · exact hclean₁.answered

lemma attempts_safe (hkey : Digested p C) (n : ℕ) : ∀ {keyGeneration : Option ℕ}
    {row : Option KeyRow} {w : World lang Store},
    Looking p.workspaceId p.input i keyGeneration row w →
      PushSafe C permits i
        (fun result w => Answered C p.workspaceId p.input (w.eventsOf i) result)
        (p.attempts keyGeneration row n) w := by
  induction n with
  | zero => exact fun h => h.clean.answered
  | succ n ih =>
    intro keyGeneration row w h
    refine Shared.Safe.then (attempt_safe hkey h) fun outcome w' houtcome => ?_
    cases outcome with
    | answer result => exact houtcome
    | again keyGeneration row => exact ih houtcome

lemma pushedKey_safe (apiKey? : Option Key) (hclean : Clean i w) :
    PushSafe C permits i (fun apiKey w => (∀ key, apiKey? = some key → apiKey = key) ∧ Clean i w)
      (pushedKey apiKey?) w := by
  cases apiKey? with
  | some apiKey => exact ⟨fun key hkey => Option.some.inj hkey, hclean⟩
  | none =>
    refine PushSafe.ask fun s a w₁ _ hown₁ => ⟨fun key hkey => ?_, ?_⟩
    · simp at hkey
    · exact hclean.cons hown₁ ⟨rfl, rfl, rfl, rfl⟩

/-- **A whole push.** -/
lemma pushWorkspaceKey_safe (id : WorkspaceId) (input : PushWorkspaceKeyInput)
    (hnew : w.eventsOf i = []) :
    PushSafe C permits i (fun result w => Answered C id input (w.eventsOf i) result)
      (pushWorkspaceKey id input) w := by
  have hclean : Clean i w := by simp [Clean, hnew]
  refine PushSafe.ask fun s a w₁ _ hown₁ => ?_
  have hclean₁ := hclean.cons hown₁ ⟨rfl, rfl, rfl, rfl⟩
  split
  · refine Shared.Safe.then (pushedKey_safe input.apiKey hclean₁) fun apiKey w₂ hpushed => ?_
    obtain ⟨hapiKey, hclean₂⟩ := hpushed
    refine PushSafe.ask fun s a w₃ _ hown₃ => PushSafe.ask fun s a w₄ _ hown₄ => ?_
    have hclean₃ := hclean₂.cons hown₃ ⟨rfl, rfl, rfl, rfl⟩
    have hdigested : Digested ⟨id, input, apiKey, C.sha256Hex apiKey⟩ C := ⟨rfl, hapiKey⟩
    refine attempts_safe (p := ⟨id, input, apiKey, C.sha256Hex apiKey⟩) hdigested 2
      ⟨hclean₃.cons hown₄ ⟨rfl, rfl, rfl, rfl⟩, ?_, fun _ => rfl⟩
    rw [hown₄]
    exact rowRead_readKeyRow rfl
  · exact hclean₁.answered

end Push

/-! ## Every run -/

lemma keyLater_drift (d : Millis) (w : World lang Store) :
    KeyLater W w (w.drift (machine C) d) :=
  ⟨⟨[], rfl, fun _ row hrow => ⟨row, hrow, .refl row⟩⟩, fun h => ⟨h, fun _ hrow => hrow⟩⟩

/-- What a call returns with. -/
def Returns (C : Crypto) (w : World lang Store) (i : ℕ) : (c : Call) → c.Result → Prop
  | .pushWorkspaceKey id input, result => Answered C id input (w.eventsOf i) result
  | _, _ => True

lemma body_returns {i : ℕ} {permits : World lang Store → ℕ → Stmt → Prop} {w : World lang Store}
    (c : Call) (hnew : w.eventsOf i = []) :
    PushSafe C permits i (fun result w => Returns C w i c result) (c.body C) w := by
  cases c with
  | pushWorkspaceKey id input => exact pushWorkspaceKey_safe id input hnew
  | _ =>
    exact Shared.Safe.of_issues (body_issues C _) (fun _ _ _ _ _ _ => ⟨trivial, trivial⟩) w

/-- Whatever the run, a push that has returned was answered truthfully. -/
lemma returns_of_reachable (C : Crypto) (init : Store → Prop) {G : Regime lang Store Call}
    {g : Config lang Store Call.Result} (h : (service C init).Reachable G g) :
    ∀ i c a, g.threads[i]? = some ⟨c, some (.done a)⟩ → Returns C g.world i c a := by
  obtain ⟨-, hreturned⟩ := Shared.sound (H := Shared.ofInv fun _ => True)
    (Q := fun c i result w => Returns C w i c result)
    (fun _ _ => trivial) (fun _ _ _ => trivial) (fun _ _ => trivial)
    (fun c _ i w hnew _ => body_returns c hnew) h
  intro i c a hi
  obtain ⟨w₀, hown, -, hresult⟩ := hreturned i c a hi
  cases c with
  | pushWorkspaceKey id input =>
    simp only [Returns] at hresult ⊢
    rw [hown]
    exact hresult
  | _ => trivial

/-- **The fencing of workspace keys.**  However pushes to an id and deletions of it interleave, the
generation of its row never decreases and increases with every change of a fenced key; after a
committed deletion no row comes or changes; a push that returns names a generation under which its
key was stored, at least the one it asked for; and one that throws has changed nothing. -/
theorem pushWorkspaceKey_fenced (C : Crypto) (init : Store → Prop) (W : WorkspaceId)
    {g : Config lang Store Call.Result}
    (h : (service C init).Reachable (pushesAndDeletions W) g) :
    (∀ g', Relation.ReflTransGen ((service C init).Step (pushesAndDeletions W)) g g' →
      KeyLater W g.world g'.world) ∧
    ∀ i id input (result : PushResult),
      g.threads[i]? = some ⟨.pushWorkspaceKey id input, some (.done result)⟩ →
        Honours C id input (g.world.eventsOf i) result := by
  constructor
  · intro g' hrun
    refine System.stable_of_statements (P := Stmt.Spares W) (R := KeyLater W) KeyLater.refl
      (fun _ _ _ => KeyLater.trans) keyLater_drift (fun c hc => ?_)
      (fun w i q hq _ a => keyLater_after hq w i a) h hrun
    have hspares : c.Spares W := hc
    exact (body_issues C c).mono fun _ => hspares.issues
  · intro i id input result hi
    have hreturns := returns_of_reachable C init h i (.pushWorkspaceKey id input) result hi
    exact hreturns.honours

/-- A cryptography that hides nothing: digests and sealed credentials are what they are made of. -/
def plainCrypto : Crypto where
  sha256Hex key := key
  mintKey n := "ar_" ++ String.ofList (List.replicate n 'x')
  sealCredential _ credential _ _ := credential
  unsealCredential box _ _ := box

/-- A store with the workspaces `ws` and nothing else. -/
def storeWith (ws : Table Workspace) : Store where
  workspaces := ws
  principals := .empty
  upgrades := .empty
  fences _ := ⟨0, false⟩
  now := 0
  minted := 0

/-- The answers of an outside world in which deletions succeed. -/
def deletes : (q : Stmt) → q.Answer
  | .sealCredential .. => ""
  | .deleteWorkspace _ => ⟨true, true⟩
  | .assertWritable _ | .issueCredential | .sha256Hex _ | .readKeyRow _ => ()
  | .keyOwnedElsewhere .. | .createWorkspace .. | .bumpGeneration .. | .changeKey .. => ()
  | .changeKeyFenced .. | .rotateKey .. | .rotatePrincipal .. | .readRecord _ => ()
  | .readLiveRecord .. | .principalHash .. | .dateNow | .swapAndRecord _ => ()
  | .beginDeletion _ | .commitDeletion _ | .releaseDeletion _ => ()

/-- The system of the examples. -/
abbrev plainService := service plainCrypto fun _ => True

/-- Two pushes of different keys race, and a deletion comes between. -/
def racingPushes : List plainService.Move :=
  .start (.pushWorkspaceKey "w" ⟨some "a", some 3, none⟩) ::
    .start (.pushWorkspaceKey "w" ⟨some "b", some 2, none⟩) ::
    .start (.deleteInternalWorkspace "w") ::
    [0, 1, 0, 1, 0, 1, 0, 1, 0, 1, 0, 1, 1, 2, 2, 2].map fun i => .exec i deletes

theorem pushWorkspaceKey_fenced_racingPushes :
    let g := plainService.runFrom (storeWith (Table.empty.insertOrIgnore ⟨"w", "k", none, none, 1⟩))
      racingPushes
    (∀ g', Relation.ReflTransGen (plainService.Step (pushesAndDeletions "w")) g g' →
      KeyLater "w" g.world g'.world) ∧
    ∀ i id input (result : PushResult),
      g.threads[i]? = some ⟨.pushWorkspaceKey id input, some (.done result)⟩ →
        Honours plainCrypto id input (g.world.eventsOf i) result := by
  apply pushWorkspaceKey_fenced
  apply System.runFrom_reachable_of _ _ trivial
  apply System.allowsAll_of_starts _ (fun _ _ _ => trivial) trivial
  intro c hc
  simp only [racingPushes, List.mem_cons, List.mem_map] at hc
  rcases hc with h | h | h | ⟨i, -, h⟩ <;> cases h <;> trivial

end Credential
