import Relaycast.EventLog.Sequence
import Relaycast.Interleaving.History

/-!
# The numbers of a batch find their events

The numbers a batch hands out in one workspace are a range, so sorting what comes back restores the
order of the events, and taking the numbers one after the other gives each event the number its own
row is stored under.  Slices are one statement each; a later slice numbers higher than an earlier
one.
-/

namespace EventLog

open Relational Interleaving

/-! ## One slice -/

section Slice

variable (log : Log) (batch : List ScopedEventInput) (createdAt : Seconds)

lemma length_batchRows : (log.batchRows batch createdAt).length = batch.length := by
  induction batch generalizing log with
  | nil => rfl
  | cons e batch ih => rw [Log.batchRows_cons, List.length_cons, List.length_cons, ih]

/-- In whatever order the rows come back, sorted they are the range of the workspace. -/
lemma seqsByWorkspace_of_perm {rows : List (WorkspaceId × ℕ)}
    (hrows : rows.Perm ((log.batchRows batch createdAt).map key)) (X : WorkspaceId) :
    seqsByWorkspace rows X = List.range' (log.highWater X + 1) (eventsIn batch X) := by
  have hnumbers : ((((log.batchRows batch createdAt).map key).filter fun r => r.1 == X).map
      Prod.snd) = numbers (log.batchRows batch createdAt) X := by
    rw [List.filter_map, List.map_map]
    rfl
  have hperm : (seqsByWorkspace rows X).Perm (numbers (log.batchRows batch createdAt) X) := by
    rw [← hnumbers]
    exact (List.perm_insertionSort _ _).trans ((hrows.filter _).map _)
  rw [← numbers_batchRows log batch createdAt X]
  refine hperm.eq_of_pairwise' (r := (· ≤ ·)) (List.pairwise_insertionSort _ _) ?_
  rw [numbers_batchRows]
  exact (List.sortedLE_range' _ _ _).pairwise

/-- **Each event gets the number its row is stored under.** -/
lemma assign_eq {seqs : WorkspaceId → List ℕ}
    (hseqs : ∀ X, seqs X = List.range' (log.highWater X + 1) (eventsIn batch X)) :
    assign batch seqs = (log.batchRows batch createdAt).map fun r => some r.seq := by
  induction batch generalizing log seqs with
  | nil => rfl
  | cons e batch ih =>
    have hhere : seqs e.workspaceId = (log.highWater e.workspaceId + 1) ::
        List.range' (log.highWater e.workspaceId + 1 + 1) (eventsIn batch e.workspaceId) := by
      rw [hseqs, eventsIn_cons, if_pos rfl, List.range'_succ]
    rw [assign, Log.batchRows_cons, List.map_cons, hhere]
    refine congrArg₂ List.cons rfl (ih (log.push e createdAt) fun X => ?_)
    rw [Log.highWater_push]
    by_cases hX : X = e.workspaceId
    · subst hX
      rw [Function.update_self, Function.update_self]
      rfl
    · rw [Function.update_of_ne hX, Function.update_of_ne hX, hseqs, eventsIn_cons,
        if_neg (Ne.symm hX), Nat.add_zero (eventsIn batch X)]

/-- The rows of a batch are those of its events, in order. -/
lemma forall₂_batchRows :
    List.Forall₂ (fun (e : ScopedEventInput) (r : Row) => r = e.row r.seq createdAt) batch
      (log.batchRows batch createdAt) := by
  induction batch generalizing log with
  | nil => exact .nil
  | cons e batch ih =>
    rw [Log.batchRows_cons]
    exact .cons rfl (ih _)

/-- The rows of one workspace in a batch are numbered upwards. -/
lemma pairwise_batchRows :
    (log.batchRows batch createdAt).Pairwise fun r r' =>
      r.workspaceId = r'.workspaceId → r.seq < r'.seq := by
  induction batch generalizing log with
  | nil => exact .nil
  | cons e batch ih =>
    rw [Log.batchRows_cons]
    refine .cons (fun r hr hX => ?_) (ih _)
    have hlt := highWater_lt_of_batchRows (log.push e createdAt) batch createdAt hr
    rw [Log.highWater_push, ← hX] at hlt
    simpa [ScopedEventInput.row] using hlt

end Slice

/-! ## Every slice -/

/-- The inputs of a batch call beside what it returned for them: as many as the inputs, each number
that of a row the call itself has stored for that very input, and the numbers of one workspace in
the order of its inputs. -/
structure Aligned (own : List (Event lang Log)) (inputs : List ScopedEventInput)
    (result : List (Option ℕ)) : Prop where
  length : result.length = inputs.length
  stored : ∀ p ∈ inputs.zip result, ∀ n, p.2 = some n →
    ∃ e ∈ own, ∃ createdAt, p.1.row n createdAt ∈ stored e
  ordered : (inputs.zip result).Pairwise fun p p' => p.1.workspaceId = p'.1.workspaceId →
    ∀ n n', p.2 = some n → p'.2 = some n' → n < n'

/-- What a slice reports, with the logs around it. -/
structure Reported (before after : Log) (inputs : List ScopedEventInput)
    (result : List (Option ℕ)) : Prop where
  above : ∀ p ∈ inputs.zip result, ∀ n, p.2 = some n → before.highWater p.1.workspaceId < n
  below : ∀ p ∈ inputs.zip result, ∀ n, p.2 = some n → n ≤ after.highWater p.1.workspaceId

lemma not_some_of_nulls {inputs batch : List ScopedEventInput} {p : ScopedEventInput × Option ℕ}
    (hp : p ∈ inputs.zip (batch.map fun _ => (none : Option ℕ))) : p.2 = none := by
  obtain ⟨_, -, hnone⟩ := List.mem_map.mp (List.of_mem_zip hp).2
  exact hnone.symm

/-- What a failed slice reports. -/
lemma aligned_nulls (own : List (Event lang Log)) (before after : Log)
    (batch : List ScopedEventInput) :
    Aligned own batch (batch.map fun _ => none) ∧
      Reported before after batch (batch.map fun _ => none) := by
  have hnone : ∀ p ∈ batch.zip (batch.map fun _ => (none : Option ℕ)), ∀ n, p.2 ≠ some n :=
    fun p hp n h => by simp [not_some_of_nulls hp] at h
  refine ⟨⟨List.length_map _, fun p hp n h => absurd h (hnone p hp n), ?_⟩,
    fun p hp n h => absurd h (hnone p hp n), fun p hp n h => absurd h (hnone p hp n)⟩
  exact List.pairwise_iff_forall_sublist.mpr fun hsub _ n _ h =>
    absurd h (hnone _ (hsub.subset (by simp)) n)

/-- What a slice that succeeds reports. -/
lemma aligned_slice {own : List (Event lang Log)} {e : Event lang Log} (he : e ∈ own)
    (batch : List ScopedEventInput) (createdAt : Seconds)
    (hafter : e.after = e.before.append (e.before.batchRows batch createdAt)) :
    Aligned own batch ((e.before.batchRows batch createdAt).map fun r => some r.seq) ∧
      Reported e.before e.after batch
        ((e.before.batchRows batch createdAt).map fun r => some r.seq) := by
  have hlength := length_batchRows e.before batch createdAt
  have hzip : ∀ p ∈ batch.zip ((e.before.batchRows batch createdAt).map fun r => some r.seq),
      ∀ n, p.2 = some n → p.1.row n createdAt ∈ e.before.batchRows batch createdAt := by
    intro p hp n hn
    rw [List.zip_map_right] at hp
    obtain ⟨⟨input, r⟩, hmem, rfl⟩ := List.mem_map.mp hp
    obtain rfl : r.seq = n := Option.some.inj hn
    have hrow : r = input.row r.seq createdAt :=
      (List.forall₂_iff_zip.mp (forall₂_batchRows e.before batch createdAt)).2 hmem
    show input.row r.seq createdAt ∈ _
    rw [← hrow]
    exact (List.of_mem_zip hmem).2
  refine ⟨⟨by rw [List.length_map, hlength], fun p hp n hn => ?_, ?_⟩, fun p hp n hn => ?_,
    fun p hp n hn => ?_⟩
  · refine ⟨e, he, createdAt, ?_⟩
    rw [stored, hafter, addedRows_append]
    exact hzip p hp n hn
  · rw [List.zip_map_right, List.pairwise_map]
    have hrows := pairwise_batchRows e.before batch createdAt
    have hsnd : (batch.zip (e.before.batchRows batch createdAt)).map Prod.snd =
        e.before.batchRows batch createdAt := List.map_snd_zip (by omega)
    rw [← hsnd, List.pairwise_map] at hrows
    refine hrows.imp_of_mem fun {q q'} hq hq' hlt hX n n' hn hn' => ?_
    have hrow := (List.forall₂_iff_zip.mp (forall₂_batchRows e.before batch createdAt)).2 hq
    have hrow' := (List.forall₂_iff_zip.mp (forall₂_batchRows e.before batch createdAt)).2 hq'
    obtain rfl : q.2.seq = n := Option.some.inj hn
    obtain rfl : q'.2.seq = n' := Option.some.inj hn'
    refine hlt ?_
    rw [hrow, hrow']
    exact hX
  · exact highWater_lt_of_batchRows e.before batch createdAt (hzip p hp n hn)
  · have hmem : p.1.row n createdAt ∈ e.after := by
      rw [hafter, Table.mem_def, Log.rows_append_batchRows]
      exact List.mem_append_right _ (hzip p hp n hn)
    exact Log.seq_le_highWater hmem

/-- A slice, whatever comes of it. -/
lemma aligned_event (w : World lang Log) (i : ℕ) (batch : List ScopedEventInput)
    (a : Insertion × Reordering) {own : List (Event lang Log)}
    (hown : w.event machine i (.appendBatch batch) a ∈ own) :
    Aligned own batch (assigned batch (run (.appendBatch batch) a w.store).1) ∧
      Reported w.store (run (.appendBatch batch) a w.store).2 batch
        (assigned batch (run (.appendBatch batch) a w.store).1) := by
  show Aligned own batch (assigned batch (orFault a.1.fault _)) ∧ Reported _ _ batch
    (assigned batch (orFault a.1.fault _))
  cases hfault : a.1.fault with
  | some f => exact aligned_nulls own _ _ batch
  | none =>
    have hperm := a.2.2 ((w.store.batchRows batch a.1.createdAt).map key)
    have hlength : (a.2.1 ((w.store.batchRows batch a.1.createdAt).map key)).length =
        batch.length := by
      rw [hperm.length_eq, List.length_map, length_batchRows]
    have hassigned : assigned batch (orFault none
        (a.2.1 ((w.store.batchRows batch a.1.createdAt).map key))) =
          (w.store.batchRows batch a.1.createdAt).map fun r => some r.seq := by
      show (if _ then _ else _) = _
      rw [if_pos hlength]
      exact assign_eq _ _ _ (seqsByWorkspace_of_perm _ _ _ hperm)
    have hafter : (run (.appendBatch batch) a w.store).2 =
        w.store.append (w.store.batchRows batch a.1.createdAt) := by
      show (if a.1.applied then _ else _) = _
      rw [Insertion.applied, hfault]
      rfl
    rw [hassigned]
    exact aligned_slice hown batch a.1.createdAt hafter

/-! ## The loop over the slices -/

/-- Nothing is taken back of the log. -/
def growing : Shared lang Log where
  inv _ := True
  grows w w' := Extends w.store w'.store
  refl w := Extends.refl w.store
  trans _ _ _ h h' := h.trans h'

lemma growing_after (w : World lang Log) (i : ℕ) (q : Stmt) (a : q.Answer) :
    growing.inv (w.after machine i q a) ∧ growing.grows w (w.after machine i q a) :=
  ⟨trivial, extends_run q a w.store⟩

/-- What the loop has established since the world `w`. -/
structure Sliced (i : ℕ) (w w' : World lang Log) (inputs : List ScopedEventInput)
    (result : List (Option ℕ)) : Prop where
  own : w.eventsOf i ⊆ w'.eventsOf i
  moved : Extends w.store w'.store
  aligned : Aligned (w'.eventsOf i) inputs result
  reported : Reported w.store w'.store inputs result

variable {permits : World lang Log → ℕ → Stmt → Prop} {i : ℕ}

/-- One more slice before the others: its numbers are lower than theirs. -/
lemma Sliced.cons {w w₁ w₂ : World lang Log} {batch inputs : List ScopedEventInput}
    {result results : List (Option ℕ)} (h₁ : Sliced i w w₁ batch result)
    (h₂ : Sliced i w₁ w₂ inputs results) : Sliced i w w₂ (batch ++ inputs) (result ++ results) := by
  have hzip : (batch ++ inputs).zip (result ++ results) = batch.zip result ++ inputs.zip results :=
    List.zip_append h₁.aligned.length.symm
  refine ⟨fun _ he => h₂.own (h₁.own he), h₁.moved.trans h₂.moved, ⟨?_, ?_, ?_⟩, ?_, ?_⟩
  · rw [List.length_append, List.length_append, h₁.aligned.length, h₂.aligned.length]
  · rw [hzip]
    intro p hp n hn
    rcases List.mem_append.mp hp with hp | hp
    · obtain ⟨e, he, hstored⟩ := h₁.aligned.stored p hp n hn
      exact ⟨e, h₂.own he, hstored⟩
    · exact h₂.aligned.stored p hp n hn
  · rw [hzip]
    refine List.pairwise_append.mpr ⟨h₁.aligned.ordered, h₂.aligned.ordered,
      fun p hp p' hp' hX n n' hn hn' => ?_⟩
    have hbelow := h₁.reported.below p hp n hn
    have habove := h₂.reported.above p' hp' n' hn'
    rw [← hX] at habove
    omega
  · rw [hzip]
    intro p hp n hn
    rcases List.mem_append.mp hp with hp | hp
    · exact h₁.reported.above p hp n hn
    · exact Nat.lt_of_le_of_lt (h₁.moved.kept _) (h₂.reported.above p hp n hn)
  · rw [hzip]
    intro p hp n hn
    rcases List.mem_append.mp hp with hp | hp
    · exact Nat.le_trans (h₁.reported.below p hp n hn) (h₂.moved.kept _)
    · exact h₂.reported.below p hp n hn

lemma appendSlices_safe (batches : List (List ScopedEventInput)) (w : World lang Log) :
    growing.Safe machine permits i (fun result w' => Sliced i w w' batches.flatten result)
      (appendSlices batches) w := by
  induction batches generalizing w with
  | nil =>
    exact ⟨fun _ he => he, Extends.refl _, ⟨rfl, by simp, by simp⟩, by simp, by simp⟩
  | cons batch rest ih =>
    refine Shared.Safe.ask fun w₁ hown₁ hmoved₁ _ _ a =>
      ⟨growing_after w₁ i (.appendBatch batch) a, ?_⟩
    rintro written rfl
    refine Shared.Safe.then (ih _) fun more w₂ h₂ => ?_
    refine Sliced.cons ⟨fun e he => ?_, hmoved₁.trans
      (growing_after w₁ i (.appendBatch batch) a).2, ?_, ?_⟩ h₂
    · rw [World.eventsOf_after_self, hown₁]
      exact List.mem_cons_of_mem _ he
    · exact (aligned_event w₁ i batch a (World.event_mem_eventsOf _ _ _ _ _)).1
    · obtain ⟨habove, hbelow⟩ :=
        (aligned_event w₁ i batch a (World.event_mem_eventsOf _ _ _ _ _)).2
      exact ⟨fun p hp n hn => Nat.lt_of_le_of_lt (hmoved₁.kept _) (habove p hp n hn), hbelow⟩

lemma appendWorkspaceEventBatch_safe (inputs : List ScopedEventInput) (w : World lang Log) :
    growing.Safe machine permits i (fun result w' => Aligned (w'.eventsOf i) inputs result)
      (appendWorkspaceEventBatch inputs) w := by
  have hflatten :
      (slices WORKSPACE_EVENT_APPEND_BATCH_SIZE inputs.length inputs).flatten = inputs :=
    flatten_slices (by decide) (Nat.le_refl _)
  have hsafe := @appendSlices_safe permits i
    (slices WORKSPACE_EVENT_APPEND_BATCH_SIZE inputs.length inputs) w
  rw [hflatten] at hsafe
  exact hsafe.weaken fun _ _ h => h.aligned

/-- What a call returns with, where it is a batch call. -/
def BatchPost : (c : Call) → ℕ → c.Result → World lang Log → Prop
  | .appendWorkspaceEventBatch inputs, i, result, w => Aligned (w.eventsOf i) inputs result
  | _, _, _, _ => True

/-- **A batch call returns one entry for each input, and each number it returns is that of the row
it has stored for that very input**, whatever other calls append and delete in the meantime. -/
theorem appendWorkspaceEventBatch_aligned {g : Config lang Log Call.Result}
    (h : service.Reachable (Regime.free lang Log Call) g) {i : ℕ}
    {inputs : List ScopedEventInput} {result : List (Option ℕ)}
    (hi : g.threads[i]? = some ⟨.appendWorkspaceEventBatch inputs, some (.done result)⟩) :
    Aligned (g.world.eventsOf i) inputs result := by
  have hcall : ∀ (c : Call) (j : ℕ) (w : World lang Log),
      growing.Safe machine (Regime.free lang Log Call).permits j (BatchPost c j) c.body w := by
    intro c j w
    have hplain : growing.Safe machine (Regime.free lang Log Call).permits j (fun _ _ => True)
        c.body w :=
      Shared.Safe.of_issues (Prog.issues_true _) (fun w q _ _ _ a => growing_after w j q a) w
    cases c with
    | appendWorkspaceEventBatch inputs => exact appendWorkspaceEventBatch_safe inputs w
    | _ => exact hplain
  obtain ⟨-, hreturned⟩ := Shared.sound (H := growing) (Q := BatchPost) (fun _ _ => trivial)
    (fun _ _ _ => trivial) (fun (d : Empty) => d.elim) (fun c _ j w _ _ => hcall c j w) h
  obtain ⟨w₀, hown, -, hpost⟩ := hreturned i _ _ hi
  rw [hown]
  exact hpost

/-- The batch of the run over two workspaces. -/
theorem aligned_mixed :
    Aligned (mixedRun.world.eventsOf 0) twoWorkspaces [some 1, some 1, some 2] :=
  appendWorkspaceEventBatch_aligned mixedRun_reachable rfl

end EventLog
