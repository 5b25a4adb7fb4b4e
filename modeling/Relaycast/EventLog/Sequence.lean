import Relaycast.EventLog.Log
import Relaycast.Interleaving.Safety

/-!
# The numbers of the event log

A number is the highest one of its workspace and one, so what carries everything is that no step
lowers the highest number: retention spares the row that has it.  The rows that a run stores for a
workspace are then numbered without a gap and without a repetition, in the order in which they are
committed, whatever has been deleted in between (`stored_consecutive`).

A batch is its events one after the other (`append_batchRows_cons`), so what holds of one event
holds of a batch by induction on it.
-/

namespace EventLog

open Relational Interleaving

/-! ## The highest number -/

namespace Log

variable {log : Log} {X : WorkspaceId} {r : Row}

lemma le_foldr_max {ns : List ℕ} {n : ℕ} (hn : n ∈ ns) : n ≤ ns.foldr max 0 := by
  induction ns with
  | nil => simp at hn
  | cons m ns ih =>
    rw [List.foldr_cons]
    rcases List.mem_cons.mp hn with rfl | hn
    · exact le_max_left _ _
    · exact le_trans (ih hn) (le_max_right _ _)

lemma foldr_max_mem {ns : List ℕ} (hpos : 0 < ns.foldr max 0) : ns.foldr max 0 ∈ ns := by
  induction ns with
  | nil => simp at hpos
  | cons m ns ih =>
    rw [List.foldr_cons] at hpos ⊢
    rcases le_total (ns.foldr max 0) m with hle | hle
    · rw [max_eq_left hle]
      exact List.mem_cons_self
    · rw [max_eq_right hle] at hpos ⊢
      exact List.mem_cons_of_mem _ (ih hpos)

lemma seq_le_highWater (hr : r ∈ log) : r.seq ≤ log.highWater r.workspaceId :=
  le_foldr_max (List.mem_map.mpr ⟨r, Table.mem_select.mpr ⟨hr, by simp⟩, rfl⟩)

lemma exists_highWater (hpos : 0 < log.highWater X) :
    ∃ r ∈ log, r.workspaceId = X ∧ r.seq = log.highWater X := by
  obtain ⟨r, hr, hseq⟩ := List.mem_map.mp (foldr_max_mem hpos)
  obtain ⟨hmem, hX⟩ := Table.mem_select.mp hr
  exact ⟨r, hmem, by simpa using hX, hseq⟩

/-- The highest number is what bounds all numbers and is reached. -/
lemma highWater_eq {n : ℕ} (hle : ∀ r ∈ log, r.workspaceId = X → r.seq ≤ n)
    (hreached : n = 0 ∨ ∃ r ∈ log, r.workspaceId = X ∧ r.seq = n) : log.highWater X = n := by
  refine le_antisymm ?_ ?_
  · by_contra hlt
    obtain ⟨r, hr, hX, hseq⟩ := @exists_highWater log X (by omega)
    have := hle r hr hX
    omega
  · rcases hreached with rfl | ⟨r, hr, rfl, rfl⟩
    · exact Nat.zero_le _
    · exact seq_le_highWater hr

/-! ## Inserting -/

/-- The log after one more event. -/
def push (log : Log) (e : ScopedEventInput) (createdAt : Seconds) : Log :=
  log.append [e.row (log.highWater e.workspaceId + 1) createdAt]

variable {e : ScopedEventInput} {createdAt : Seconds}

/-- No row has the number after the highest. -/
lemma rows_push (log : Log) (e : ScopedEventInput) (createdAt : Seconds) :
    (log.push e createdAt).rows =
      log.rows ++ [e.row (log.highWater e.workspaceId + 1) createdAt] := by
  have hfree : log.conflicts (e.row (log.highWater e.workspaceId + 1) createdAt) = false := by
    refine List.any_eq_false.mpr fun r hr hclash => ?_
    have hkey : (r.workspaceId, r.seq) = (e.workspaceId, log.highWater e.workspaceId + 1) :=
      beq_iff_eq.mp hclash
    obtain ⟨hX, hseq⟩ := Prod.mk.inj hkey
    have hle := @seq_le_highWater log r hr
    rw [hX] at hle
    omega
  show (log.insertOrIgnore _).rows = _
  rw [Table.insertOrIgnore, dif_pos hfree]
  rfl

lemma mem_push :
    r ∈ log.push e createdAt ↔
      r ∈ log ∨ r = e.row (log.highWater e.workspaceId + 1) createdAt := by
  rw [Table.mem_def, rows_push, List.mem_append, List.mem_singleton]
  rfl

/-- An event moves the highest number of its workspace on by one. -/
lemma highWater_push (log : Log) (e : ScopedEventInput) (createdAt : Seconds) :
    (log.push e createdAt).highWater =
      Function.update log.highWater e.workspaceId (log.highWater e.workspaceId + 1) := by
  funext X
  by_cases hX : X = e.workspaceId
  · subst hX
    rw [Function.update_self]
    refine highWater_eq (fun r hr hr' => ?_)
      (.inr ⟨_, mem_push.mpr (.inr rfl), rfl, rfl⟩)
    rcases mem_push.mp hr with hr | rfl
    · exact hr' ▸ Nat.le_succ_of_le (seq_le_highWater hr)
    · rfl
  · rw [Function.update_of_ne hX]
    refine highWater_eq (fun r hr hr' => ?_) ?_
    · rcases mem_push.mp hr with hr | rfl
      · exact hr' ▸ seq_le_highWater hr
      · exact absurd hr'.symm hX
    · rcases Nat.eq_zero_or_pos (log.highWater X) with hzero | hpos
      · exact .inl hzero
      · obtain ⟨r, hr, hr', hseq⟩ := exists_highWater hpos
        exact .inr ⟨r, mem_push.mpr (.inl hr), hr', hseq⟩

/-- A batch is its events one after the other. -/
lemma append_batchRows_cons (log : Log) (e : ScopedEventInput) (rest : List ScopedEventInput)
    (createdAt : Seconds) :
    log.append (log.batchRows (e :: rest) createdAt) =
      (log.push e createdAt).append ((log.push e createdAt).batchRows rest createdAt) := by
  rw [batchRows, batchRows, highWater_push]
  rfl

lemma batchRows_cons (log : Log) (e : ScopedEventInput) (rest : List ScopedEventInput)
    (createdAt : Seconds) :
    log.batchRows (e :: rest) createdAt =
      e.row (log.highWater e.workspaceId + 1) createdAt ::
        (log.push e createdAt).batchRows rest createdAt := by
  rw [batchRows, batchRows, highWater_push]
  rfl

lemma rows_append_batchRows (log : Log) (batch : List ScopedEventInput) (createdAt : Seconds) :
    (log.append (log.batchRows batch createdAt)).rows =
      log.rows ++ log.batchRows batch createdAt := by
  induction batch generalizing log with
  | nil => simp [append, batchRows, ranked]
  | cons e rest ih =>
    rw [append_batchRows_cons, ih, rows_push, batchRows_cons, List.append_assoc]
    rfl

/-! ## Deleting -/

lemma mem_prune {picked : List (WorkspaceId × ℕ)} :
    r ∈ log.prune picked ↔ r ∈ log ∧
      (decide ((r.workspaceId, r.seq) ∈ picked) && log.hasHigher r) = false := Table.mem_deleteWhere

/-- **Retention spares the highest number.** -/
lemma highWater_prune (log : Log) (picked : List (WorkspaceId × ℕ)) (X : WorkspaceId) :
    (log.prune picked).highWater X = log.highWater X := by
  refine highWater_eq (fun r hr hX => hX ▸ seq_le_highWater (mem_prune.mp hr).1) ?_
  rcases Nat.eq_zero_or_pos (log.highWater X) with hzero | hpos
  · exact .inl hzero
  · obtain ⟨r, hr, rfl, hseq⟩ := exists_highWater hpos
    have hhighest : log.hasHigher r = false := by
      refine List.any_eq_false.mpr fun hw hmem hhigher => ?_
      simp only [Bool.and_eq_true, beq_iff_eq, decide_eq_true_eq] at hhigher
      have hle := @seq_le_highWater log hw hmem
      rw [hhigher.1] at hle
      omega
    exact .inr ⟨r, mem_prune.mpr ⟨hr, by simp [hhighest]⟩, rfl, hseq⟩

end Log

/-! ## What a statement does to the log -/

/-- A statement leaves the log alone, appends a batch (of one event, mostly), or deletes. -/
lemma run_cases (q : Stmt) (a : q.Answer) (log : Log) :
    (run q a log).2 = log ∨ (∃ batch createdAt,
      (run q a log).2 = log.append (log.batchRows batch createdAt)) ∨
      ∃ picked, (run q a log).2 = log.prune picked := by
  cases q with
  | page | latestSeq | publish => exact .inl rfl
  | append X input =>
    show (if a.applied then log.append _ else log) = _ ∨ _
    split_ifs with happlied
    · exact .inr (.inl ⟨[⟨X, input⟩], a.createdAt, if_pos happlied⟩)
    · exact .inl rfl
  | appendWhen X input =>
    show (if a.1.applied && a.2 then log.append _ else log) = _ ∨ _
    split_ifs with happlied
    · exact .inr (.inl ⟨[⟨X, input⟩], a.1.createdAt, if_pos happlied⟩)
    · exact .inl rfl
  | appendBatch batch =>
    show (if a.1.applied then log.append _ else log) = _ ∨ _
    split_ifs with happlied
    · exact .inr (.inl ⟨batch, a.1.createdAt, if_pos happlied⟩)
    · exact .inl rfl
  | prune picked =>
    show (if a.1.isNone || a.2 then log.prune picked else log) = _ ∨ _
    split_ifs with happlied
    · exact .inr (.inr ⟨picked, if_pos happlied⟩)
    · exact .inl rfl

/-- The numbers of the rows of a workspace. -/
def numbers (rows : List Row) (X : WorkspaceId) : List ℕ :=
  (rows.filter fun r => r.workspaceId == X).map Row.seq

/-- The rows that are in one log and not in another. -/
def addedRows (log log' : Log) : List Row := log'.rows.filter fun r => decide (r ∉ log.rows)

/-- How many events of a batch are a workspace's. -/
def eventsIn (batch : List ScopedEventInput) (X : WorkspaceId) : ℕ :=
  batch.countP fun e => e.workspaceId == X

section Batch

variable (log : Log) (e : ScopedEventInput) (batch : List ScopedEventInput) (createdAt : Seconds)
  (X : WorkspaceId)

lemma eventsIn_cons :
    eventsIn (e :: batch) X = eventsIn batch X + if e.workspaceId = X then 1 else 0 := by
  simp [eventsIn, List.countP_cons]

/-- The highest number of a workspace after one event, beside how many are still to come. -/
lemma highWater_push_add :
    (log.push e createdAt).highWater X + eventsIn batch X =
      log.highWater X + eventsIn (e :: batch) X := by
  rw [Log.highWater_push, eventsIn_cons]
  by_cases hX : X = e.workspaceId
  · subst hX
    simp
    omega
  · simp [Function.update_of_ne hX, Ne.symm hX]

/-- The rows of a batch have the numbers after the highest. -/
lemma numbers_batchRows :
    numbers (log.batchRows batch createdAt) X =
      List.range' (log.highWater X + 1) (eventsIn batch X) := by
  induction batch generalizing log with
  | nil => rfl
  | cons e batch ih =>
    have hrest := ih (log.push e createdAt)
    rw [Log.highWater_push] at hrest
    rw [Log.batchRows_cons, eventsIn_cons]
    by_cases hX : e.workspaceId = X
    · subst hX
      rw [Function.update_self] at hrest
      rw [if_pos rfl, List.range'_succ, ← hrest]
      simp [numbers, ScopedEventInput.row]
    · rw [Function.update_of_ne (Ne.symm hX)] at hrest
      rw [if_neg hX, Nat.add_zero (eventsIn batch X), ← hrest]
      simp [numbers, ScopedEventInput.row, hX]

lemma highWater_append :
    (log.append (log.batchRows batch createdAt)).highWater X =
      log.highWater X + eventsIn batch X := by
  induction batch generalizing log with
  | nil => rfl
  | cons e batch ih => rw [Log.append_batchRows_cons, ih, highWater_push_add]

/-- A row of a batch has a higher number than its workspace had before. -/
lemma highWater_lt_of_batchRows {r : Row} (hr : r ∈ log.batchRows batch createdAt) :
    log.highWater r.workspaceId < r.seq := by
  have hnumber : r.seq ∈ numbers (log.batchRows batch createdAt) r.workspaceId :=
    List.mem_map.mpr ⟨r, List.mem_filter.mpr ⟨hr, by simp⟩, rfl⟩
  rw [numbers_batchRows, List.mem_range'_1] at hnumber
  omega

lemma addedRows_append :
    addedRows log (log.append (log.batchRows batch createdAt)) = log.batchRows batch createdAt := by
  have hold : (log.rows.filter fun r => decide (r ∉ log.rows)) = [] := by
    refine List.filter_eq_nil_iff.mpr fun r hr => ?_
    simp [hr]
  rw [addedRows, Log.rows_append_batchRows, List.filter_append, hold, List.nil_append]
  refine List.filter_eq_self.mpr fun r hr => decide_eq_true fun hmem => ?_
  have hle := @Log.seq_le_highWater log r hmem
  have hlt := highWater_lt_of_batchRows log batch createdAt hr
  omega

end Batch

/-- **A statement stores rows under the numbers after the highest, without a gap.** -/
lemma numbers_run (q : Stmt) (a : q.Answer) (log : Log) (X : WorkspaceId) :
    ∃ k, numbers (addedRows log (run q a log).2) X = List.range' (log.highWater X + 1) k ∧
      (run q a log).2.highWater X = log.highWater X + k := by
  have hnone : ∀ log' : Log, log'.rows ⊆ log.rows → addedRows log log' = [] := by
    intro log' hsub
    refine List.filter_eq_nil_iff.mpr fun r hr => ?_
    simp [hsub hr]
  rcases run_cases q a log with hlog | ⟨batch, createdAt, hlog⟩ | ⟨picked, hlog⟩
  · rw [hlog, hnone log fun _ hr => hr]
    exact ⟨0, rfl, rfl⟩
  · rw [hlog, addedRows_append, numbers_batchRows, highWater_append]
    exact ⟨_, rfl, rfl⟩
  · rw [hlog, hnone _ fun _ hr => (Log.mem_prune.mp hr).1, Log.highWater_prune]
    exact ⟨0, rfl, rfl⟩

/-- The log has moved on: what is new has a higher number than its workspace had before. -/
structure Extends (log log' : Log) : Prop where
  newer : ∀ r ∈ log', r ∈ log ∨ log.highWater r.workspaceId < r.seq
  kept : ∀ X, log.highWater X ≤ log'.highWater X

lemma Extends.refl (log : Log) : Extends log log := ⟨fun _ hr => .inl hr, fun _ => Nat.le_refl _⟩

lemma Extends.trans {log log' log'' : Log} (h : Extends log log') (h' : Extends log' log'') :
    Extends log log'' := by
  refine ⟨fun r hr => ?_, fun X => Nat.le_trans (h.kept X) (h'.kept X)⟩
  rcases h'.newer r hr with hr | hlt
  · exact h.newer r hr
  · exact .inr (Nat.lt_of_le_of_lt (h.kept _) hlt)

/-- **Every statement moves the log on.** -/
lemma extends_run (q : Stmt) (a : q.Answer) (log : Log) : Extends log (run q a log).2 := by
  refine ⟨fun r hr => ?_, fun X => ?_⟩
  · by_cases hold : r ∈ log
    · exact .inl hold
    · obtain ⟨k, hnumbers, -⟩ := numbers_run q a log r.workspaceId
      have hmem : r.seq ∈ numbers (addedRows log (run q a log).2) r.workspaceId :=
        List.mem_map.mpr ⟨r, List.mem_filter.mpr
          ⟨List.mem_filter.mpr ⟨hr, decide_eq_true hold⟩, by simp⟩, rfl⟩
      rw [hnumbers, List.mem_range'_1] at hmem
      exact .inr (by omega)
  · obtain ⟨k, -, hhigh⟩ := numbers_run q a log X
    omega

/-! ## Every run -/

/-- The rows an executed statement has stored. -/
def stored (e : Event lang Log) : List Row := addedRows e.before e.after

/-- The numbers under which rows of a workspace have been stored, in the order of the commits. -/
def storedNumbers (w : World lang Log) (X : WorkspaceId) : List ℕ :=
  w.trace.reverse.flatMap fun e => numbers (stored e) X

/-- **The rows of a workspace are numbered without a gap and without a repetition, in the order of
the commits, up to the highest number in the log**, whatever retention deletes in between. -/
theorem stored_consecutive {g : Config lang Log Call.Result}
    (h : service.Reachable (Regime.free lang Log Call) g) (X : WorkspaceId) :
    ∃ n ≤ g.world.store.highWater X,
      storedNumbers g.world X = List.range' (n + 1) (g.world.store.highWater X - n) := by
  refine System.invariant_of_statements (P := fun _ => True) (I := fun w =>
    ∃ n ≤ w.store.highWater X, storedNumbers w X = List.range' (n + 1) (w.store.highWater X - n))
    (fun log _ => ⟨log.highWater X, Nat.le_refl _, ?_⟩) (fun (d : Empty) => d.elim)
    (fun _ _ => Prog.issues_true _) (fun w i q _ hw _ a => ?_) h
  · simp [storedNumbers]
  · obtain ⟨n, hle, hnumbers⟩ := hw
    obtain ⟨k, hstep, hhigh⟩ := numbers_run q a w.store X
    have hall : storedNumbers (w.after machine i q a) X =
        storedNumbers w X ++ numbers (addedRows w.store (run q a w.store).2) X := by
      simp [storedNumbers, stored, World.event, machine]
    refine ⟨n, ?_, ?_⟩
    · show n ≤ (run q a w.store).2.highWater X
      omega
    · show storedNumbers (w.after machine i q a) X =
        List.range' (n + 1) ((run q a w.store).2.highWater X - n)
      rw [hall, hnumbers, hstep, hhigh]
      have hsplit := @List.range'_append (n + 1) (w.store.highWater X - n) k 1
      rw [show n + 1 + 1 * (w.store.highWater X - n) = w.store.highWater X + 1 by omega] at hsplit
      rw [hsplit]
      congr 1
      omega

/-! ## A run -/

/-- An outside world in which nothing fails and rows come back in the reverse order. -/
def backwards : (q : Stmt) → q.Answer
  | .append .. => ⟨0, none, true⟩
  | .appendWhen .. => (⟨0, none, true⟩, true)
  | .appendBatch _ => (⟨0, none, true⟩, ⟨List.reverse, List.reverse_perm⟩)
  | .prune _ => (none, true)
  | .page .. | .latestSeq _ | .publish .. => none

/-- A batch over two workspaces, in turn. -/
def twoWorkspaces : List ScopedEventInput :=
  [⟨"w", ⟨"a", none, "1"⟩⟩, ⟨"v", ⟨"b", none, "2"⟩⟩, ⟨"w", ⟨"c", none, "3"⟩⟩]

/-- A batch is appended and read, its first event is deleted, another one is appended and read. -/
def mixedMoves : List service.Move :=
  [.start (.appendWorkspaceEventBatch twoWorkspaces), .exec 0 backwards,
    .start (.follow "w" 0 [⟨some 1, false⟩, ⟨none, true⟩]), .exec 1 backwards, .exec 1 backwards,
    .start (.prune [[("w", 1), ("w", 2)]]), .exec 2 backwards,
    .start (.appendWorkspaceEvent "w" ⟨"d", none, "4"⟩), .exec 3 backwards,
    .exec 1 backwards, .exec 1 backwards]

def mixedRun : Config lang Log Call.Result := service.runFrom Table.empty mixedMoves

lemma mixedRun_reachable : service.Reachable (Regime.free lang Log Call) mixedRun :=
  service.runFrom_reachable trivial _

/-- The numbers of that run. -/
theorem stored_consecutive_mixed :
    (∃ n ≤ mixedRun.world.store.highWater "w", storedNumbers mixedRun.world "w" =
      List.range' (n + 1) (mixedRun.world.store.highWater "w" - n)) ∧
    storedNumbers mixedRun.world "w" = [1, 2, 3] :=
  ⟨stored_consecutive mixedRun_reachable "w", by decide +kernel⟩

end EventLog
