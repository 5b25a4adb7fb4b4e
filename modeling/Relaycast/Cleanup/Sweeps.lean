import Mathlib.Algebra.Order.Group.Nat
import Relaycast.Cleanup.Tombstones
import Relaycast.Relational.Table

/-!
# A sweep ends

Left alone, a sweep ends: every page makes a tombstone that was due no longer due, or is the last.
Not even a failure to note the failures keeps it going, since such a page is the last unless the
storage has deleted some of its objects (`sweep_ends`).
-/

namespace Cleanup

open Relational Reactive

variable {s s' : System} {e : Event} {es : List Event} {i : ℕ} {sweep : Sweep} {r : PageRow}
  {row : CleanupRow}

/-! ## What is due -/

/-- How many tombstones are due to the sweep. -/
def System.dueCount (s : System) (sweep : Sweep) : ℕ := s.queue.countP sweep.due

lemma countP_map_lt {p : CleanupRow → Bool} {f : CleanupRow → CleanupRow} {rows : List CleanupRow}
    (hf : ∀ row ∈ rows, p (f row) = true → p row = true)
    (hlt : ∃ row ∈ rows, p row = true ∧ p (f row) = false) :
    (rows.map f).countP p < rows.countP p := by
  induction rows with
  | nil => simp at hlt
  | cons a rows ih =>
    have hle : (rows.map f).countP p ≤ rows.countP p :=
      countP_map_le fun row hrow => hf row (List.mem_cons_of_mem a hrow)
    rw [List.map_cons, List.countP_cons, List.countP_cons]
    obtain ⟨row, hrow, hp, hfp⟩ := hlt
    obtain rfl | hrow := List.mem_cons.mp hrow
    · simp only [hp, hfp, if_true, Bool.false_eq_true, if_false]
      omega
    · have hrest := ih (fun row hrow => hf row (List.mem_cons_of_mem a hrow)) ⟨row, hrow, hp, hfp⟩
      have ha := hf a List.mem_cons_self
      by_cases hfa : p (f a) = true
      · simp only [hfa, ha hfa, if_true]
        omega
      · simp only [hfa, Bool.false_eq_true, if_false]
        omega

section Update

variable {keys : List String} {f : CleanupRow → CleanupRow}
  (hf : ∀ row ∈ s.queue, row.storageKey ∈ keys → sweep.due (f row) = false)

include hf

lemma due_of_update (row : CleanupRow) (hrow : row ∈ s.queue)
    (hp : sweep.due (if row.storageKey ∈ keys then f row else row) = true) :
    sweep.due row = true := by
  by_cases hkey : row.storageKey ∈ keys
  · rw [if_pos hkey, hf row hrow hkey] at hp
    cases hp
  · rwa [if_neg hkey] at hp

lemma dueCount_update_le : (s.update keys f).dueCount sweep ≤ s.dueCount sweep :=
  countP_map_le (due_of_update hf)

/-- Rows that are written are no longer due. -/
lemma dueCount_update_lt (hdue : ∃ row ∈ s.queue, row.storageKey ∈ keys ∧ sweep.due row = true) :
    (s.update keys f).dueCount sweep < s.dueCount sweep := by
  obtain ⟨row, hrow, hkey, hp⟩ := hdue
  exact countP_map_lt (due_of_update hf) ⟨row, hrow, hp, by rw [if_pos hkey, hf row hrow hkey]⟩

end Update

/-- A row that is removed was due. -/
lemma dueCount_remove_lt {keys : List String}
    (hdue : ∃ row ∈ s.queue, row.storageKey ∈ keys ∧ sweep.due row = true) :
    (s.remove i keys).dueCount sweep < s.dueCount sweep := by
  obtain ⟨row, hrow, hkey, hp⟩ := hdue
  have hlt : (s.queue.filter fun row => !decide (row.storageKey ∈ keys) && sweep.due row).length <
      (s.queue.filter sweep.due).length := by
    have hfilter : s.queue.filter (fun row => !decide (row.storageKey ∈ keys) && sweep.due row) =
        (s.queue.filter sweep.due).filter fun row => !decide (row.storageKey ∈ keys) := by
      rw [List.filter_filter]
    rw [hfilter]
    refine List.length_filter_lt_length_iff_exists.mpr ⟨row, List.mem_filter.mpr ⟨hrow, hp⟩, ?_⟩
    simpa using hkey
  simpa [System.dueCount, System.remove, List.countP_eq_length_filter, List.filter_filter,
    Bool.and_comm] using hlt

/-! ## What is pending -/

/-- The row is queued as it was read, and due. -/
def System.DueRow (s : System) (sweep : Sweep) (r : PageRow) : Prop :=
  ∃ row ∈ s.queue, row.storageKey = r.storageKey ∧ row.deleteAfter = r.deleteAfter ∧
    sweep.due row = true

/-- What a sweep is about to work off is there, and due. -/
def System.Pending (s : System) (sweep : Sweep) : Phase → Prop
  | .deleting page => page ≠ [] ∧ ∀ r ∈ page, s.DueRow sweep r
  | .marking remaining _ none =>
    ∃ row ∈ s.queue, row.storageKey ∈ remaining ∧ sweep.due row = true
  | .marking remaining _ (some done) =>
    done ≠ [] ∧ ∀ r ∈ done, s.DueRow sweep r ∧ r.storageKey ∉ remaining
  | .settling settled deferred => settled ≠ [] ∧ (∀ r ∈ settled, s.DueRow sweep r) ∧
      ∀ r ∈ deferred, s.DueRow sweep r ∧ sweep.now < toDate r.deleteAfter ∧
        r.storageKey ∉ settled.map PageRow.storageKey
  | .deferring _ deferred => deferred ≠ [] ∧
      ∀ r ∈ deferred, s.DueRow sweep r ∧ sweep.now < toDate r.deleteAfter
  | _ => True

/-- How far a phase is from the end of its page. -/
def Phase.weight : Phase → ℕ
  | .selecting => 5
  | .deleting _ => 4
  | .marking .. => 3
  | .settling .. => 2
  | .deferring .. => 1
  | .returned _ | .threw => 0

/-- The sweep is at work with `n` events to go at most. -/
def System.Within (s : System) (i : ℕ) (sweep : Sweep) (n : ℕ) : Prop :=
  ∃ phase, s.sweeps[i]? = some (sweep.move phase) ∧
    (s.queue.map CleanupRow.storageKey).Nodup ∧ s.Pending sweep phase ∧
      5 * s.dueCount sweep + phase.weight ≤ n

/-- Only the sweep acts, and the storage reports only what it was asked for. -/
def Alone (i : ℕ) (s : System) : Event → Prop
  | .query j _ => j = i
  | .storage j answer => j = i ∧ ∀ sweep page, s.sweeps[i]? = some sweep →
      sweep.phase = .deleting page →
        ∀ key ∈ System.reportedKeys page answer, key ∈ page.map PageRow.storageKey
  | _ => False

/-! ## One event -/

lemma next_move {phase : Phase} {settled : ℕ} {progressed : Bool} :
    (sweep.move phase).next settled progressed = sweep.next settled progressed := rfl

lemma settle_move {phase : Phase} {done : List PageRow} :
    (sweep.move phase).settle done = sweep.settle done := rfl

lemma deferOr_move {phase : Phase} {count : ℕ} {deferred : List PageRow} :
    (sweep.move phase).deferOr count deferred = sweep.deferOr count deferred := rfl

/-- The page after this one, or the return. -/
lemma within_next {n settled : ℕ} {progressed : Bool} (hi : i < s.sweeps.length)
    (hnodup : (s.queue.map CleanupRow.storageKey).Nodup) (hn : 5 * s.dueCount sweep + 5 ≤ n) :
    (s.setSweep i (sweep.next settled progressed)).Within i sweep n := by
  have hget : ∀ sweep' : Sweep, (s.setSweep i sweep').sweeps[i]? = some sweep' := fun _ =>
    List.getElem?_set_self hi
  unfold Sweep.next
  split_ifs
  · exact ⟨_, hget _, hnodup, trivial, hn⟩
  · exact ⟨_, hget _, hnodup, trivial, (Nat.le_add_right _ 5).trans hn⟩
  · exact ⟨_, hget _, hnodup, trivial, (Nat.le_add_right _ 5).trans hn⟩

/-- The return, whatever is still due. -/
lemma within_stopped {n settled : ℕ} (hi : i < s.sweeps.length)
    (hnodup : (s.queue.map CleanupRow.storageKey).Nodup) (hn : 5 * s.dueCount sweep ≤ n) :
    (s.setSweep i (sweep.next settled false)).Within i sweep n := by
  have hget : ∀ sweep' : Sweep, (s.setSweep i sweep').sweeps[i]? = some sweep' := fun _ =>
    List.getElem?_set_self hi
  unfold Sweep.next
  split_ifs with hrepeats hprogressed
  · cases hprogressed
  · exact ⟨.returned 0, hget _, hnodup, trivial, hn⟩
  · exact ⟨.returned settled, hget _, hnodup, trivial, hn⟩

/-- Tombstones whose objects are deleted are worked off. -/
lemma within_settle {n : ℕ} {done : List PageRow} (hi : i < s.sweeps.length)
    (hnodup : (s.queue.map CleanupRow.storageKey).Nodup) (hdone : done ≠ [])
    (hdue : ∀ r ∈ done, s.DueRow sweep r) (hn : 5 * s.dueCount sweep + 2 ≤ n) :
    (s.setSweep i (sweep.settle done)).Within i sweep n := by
  have hget : ∀ sweep' : Sweep, (s.setSweep i sweep').sweeps[i]? = some sweep' := fun _ =>
    List.getElem?_set_self hi
  have hlate : ∀ r ∈ done.filter (!sweep.expired ·), sweep.now < toDate r.deleteAfter := by
    intro r hr
    simpa [Sweep.expired] using (List.mem_filter.mp hr).2
  unfold Sweep.settle Sweep.deferOr
  dsimp only
  split_ifs with hsettled hdeferred
  · refine absurd (List.eq_nil_iff_forall_not_mem.mpr fun r hr => ?_) hdone
    by_cases hexpired : sweep.expired r = true
    · exact absurd (List.mem_filter.mpr ⟨hr, hexpired⟩) (hsettled ▸ List.not_mem_nil)
    · exact absurd (List.mem_filter.mpr ⟨hr, by simpa using hexpired⟩)
        (hdeferred ▸ List.not_mem_nil)
  · exact ⟨_, hget _, hnodup, ⟨hdeferred, fun r hr => ⟨hdue r (List.mem_filter.mp hr).1,
      hlate r hr⟩⟩, (Nat.add_le_add_left (Nat.le_succ 1) _).trans hn⟩
  · refine ⟨_, hget _, hnodup, ⟨hsettled, fun r hr => hdue r (List.mem_filter.mp hr).1,
      fun r hr => ⟨hdue r (List.mem_filter.mp hr).1, hlate r hr, ?_⟩⟩, hn⟩
    -- one tombstone for each key, so that it is expired or not
    rintro hkey
    obtain ⟨r', hr', hkey'⟩ := List.mem_map.mp hkey
    obtain ⟨row, hrow, hrowkey, hd, -⟩ := hdue r (List.mem_filter.mp hr).1
    obtain ⟨row', hrow', hrowkey', hd', -⟩ := hdue r' (List.mem_filter.mp hr').1
    obtain rfl : row' = row := List.inj_on_of_nodup_map hnodup hrow' hrow
      (hrowkey'.trans (hkey'.trans hrowkey.symm))
    have hexpired : toDate r'.deleteAfter ≤ sweep.now :=
      of_decide_eq_true (List.mem_filter.mp hr').2
    rw [← hd', hd] at hexpired
    exact absurd (hlate r hr) (Nat.not_lt.mpr hexpired)

lemma keys_update {keys : List String} {f : CleanupRow → CleanupRow}
    (hf : ∀ row, (f row).storageKey = row.storageKey) :
    (s.update keys f).queue.map CleanupRow.storageKey = s.queue.map CleanupRow.storageKey := by
  rw [System.update, List.map_map]
  refine List.map_congr_left fun row _ => ?_
  dsimp only [Function.comp_apply]
  split_ifs
  · exact hf row
  · rfl

/-- A write of other rows leaves a row as it is. -/
lemma dueRow_update {keys : List String} {f : CleanupRow → CleanupRow} (h : s.DueRow sweep r)
    (hkey : r.storageKey ∉ keys) : (s.update keys f).DueRow sweep r := by
  obtain ⟨row, hrow, hrowkey, hd, hdue⟩ := h
  refine ⟨row, List.mem_map.mpr ⟨row, hrow, if_neg ?_⟩, hrowkey, hd, hdue⟩
  rwa [hrowkey]

lemma dueRow_remove {keys : List String} (h : s.DueRow sweep r) (hkey : r.storageKey ∉ keys) :
    (s.remove i keys).DueRow sweep r := by
  obtain ⟨row, hrow, hrowkey, hd, hdue⟩ := h
  refine ⟨row, List.mem_filter.mpr ⟨hrow, ?_⟩, hrowkey, hd, hdue⟩
  rw [hrowkey]
  simpa using hkey

/-- What is noted as failed is put off. -/
lemma not_due_mark (row : CleanupRow) (message : Option String) (attempts : ℕ) :
    sweep.due { row with
      attempts, lastError := message
      processAfter := toSeconds (sweep.now + FILE_CLEANUP_RETRY_MS) } = false := by
  have hsecond : ∀ now : ℕ, now / 1000 < (now + 30000) / 1000 := fun now => by omega
  have hlater : toSeconds sweep.now < toSeconds (sweep.now + FILE_CLEANUP_RETRY_MS) :=
    hsecond sweep.now
  simp [Sweep.due, hlater]

lemma mark_le {keys : List String} {message : String} :
    (s.mark keys message sweep.now).dueCount sweep ≤ s.dueCount sweep :=
  dueCount_update_le fun row _ _ => not_due_mark row _ _

lemma mark_lt {keys : List String} {message : String}
    (hdue : ∃ row ∈ s.queue, row.storageKey ∈ keys ∧ sweep.due row = true) :
    (s.mark keys message sweep.now).dueCount sweep < s.dueCount sweep :=
  dueCount_update_lt (fun row _ _ => not_due_mark row _ _) hdue

/-- What is deferred is put off until its deadline. -/
lemma defer_lt {deferred : List PageRow} (hnodup : (s.queue.map CleanupRow.storageKey).Nodup)
    (hne : deferred ≠ [])
    (hdeferred : ∀ r ∈ deferred, s.DueRow sweep r ∧ sweep.now < toDate r.deleteAfter) :
    (s.defer (deferred.map PageRow.storageKey)).dueCount sweep < s.dueCount sweep := by
  refine dueCount_update_lt (fun row hrow hkey => ?_) ?_
  · obtain ⟨r, hr, hrkey⟩ := List.mem_map.mp hkey
    obtain ⟨⟨row', hrow', hrowkey', hd, -⟩, hlate⟩ := hdeferred r hr
    obtain rfl : row' = row := List.inj_on_of_nodup_map hnodup hrow' hrow (hrowkey'.trans hrkey)
    have hlater : toSeconds sweep.now < row'.deleteAfter := by
      rw [hd]
      exact Nat.div_lt_of_lt_mul (Nat.mul_comm _ _ ▸ hlate)
    simp [Sweep.due, hlater]
  · obtain ⟨r, hr⟩ := List.exists_mem_of_ne_nil _ hne
    obtain ⟨⟨row, hrow, hrowkey, -, hdue⟩, -⟩ := hdeferred r hr
    exact ⟨row, hrow, hrowkey ▸ List.mem_map_of_mem hr, hdue⟩

/-- A page that is read is due. -/
lemma dueRow_page (hr : r ∈ sweep.page s.queue) : s.DueRow sweep r := by
  obtain ⟨row, hrow, rfl⟩ := List.mem_map.mp hr
  obtain ⟨hmem, hdue⟩ := List.mem_filter.mp
    ((List.mem_insertionSort _).mp (List.mem_of_mem_take hrow))
  exact ⟨row, hmem, rfl, rfl, hdue⟩

variable {n : ℕ}

lemma within_selecting {reply : Reply} (hi : i < s.sweeps.length)
    (hnodup : (s.queue.map CleanupRow.storageKey).Nodup) (hn : 5 * s.dueCount sweep + 5 ≤ n + 1)
    (hquery : s.query i (sweep.move .selecting) reply = some s') : s'.Within i sweep n := by
  obtain rfl := Option.some.inj hquery
  have hget : ∀ sweep' : Sweep, (s.setSweep i sweep').sweeps[i]? = some sweep' := fun _ =>
    List.getElem?_set_self hi
  dsimp only
  split_ifs with hreply hpage
  · exact ⟨.returned 0, hget _, hnodup, trivial, by
      change 5 * s.dueCount sweep + 0 ≤ n
      omega⟩
  · exact ⟨.deleting _, hget _, hnodup, ⟨hpage, fun r hr => dueRow_page hr⟩, by
      change 5 * s.dueCount sweep + 4 ≤ n
      omega⟩
  · exact ⟨.threw, hget _, hnodup, trivial, by
      change 5 * s.dueCount sweep + 0 ≤ n
      omega⟩

lemma within_marking {reply : Reply} {remaining : List String} {message : String}
    {done : Option (List PageRow)} (hi : i < s.sweeps.length)
    (hnodup : (s.queue.map CleanupRow.storageKey).Nodup)
    (hpending : s.Pending sweep (.marking remaining message done))
    (hn : 5 * s.dueCount sweep + 3 ≤ n + 1)
    (hquery : s.query i (sweep.move (.marking remaining message done)) reply = some s') :
    s'.Within i sweep n := by
  obtain rfl := Option.some.inj hquery
  have hmarked : ((s.mark remaining message sweep.now).queue.map CleanupRow.storageKey).Nodup := by
    rw [System.mark, keys_update]
    · exact hnodup
    · exact fun _ => rfl
  have hle : (s.mark remaining message sweep.now).dueCount sweep ≤ s.dueCount sweep := mark_le
  simp only [next_move, settle_move, move_now]
  unfold System.unlessRefused
  cases done with
  | none =>
    have hlt : (s.mark remaining message sweep.now).dueCount sweep < s.dueCount sweep :=
      mark_lt hpending
    cases reply with
    | answered => exact within_next (s := s.mark remaining message sweep.now) hi hmarked (by omega)
    | refused => exact within_stopped (s := s) hi hnodup (by omega)
    | lost => exact within_stopped (s := s.mark remaining message sweep.now) hi hmarked (by omega)
  | some done =>
    obtain ⟨hdone, hrest⟩ := hpending
    split_ifs
    · exact within_settle hi hnodup hdone (fun r hr => (hrest r hr).1) (by omega)
    · exact within_settle (s := s.mark remaining message sweep.now) hi hmarked hdone
        (fun r hr => dueRow_update (hrest r hr).1 (hrest r hr).2) (by omega)

lemma within_settling {reply : Reply} {settled deferred : List PageRow} (hi : i < s.sweeps.length)
    (hnodup : (s.queue.map CleanupRow.storageKey).Nodup)
    (hpending : s.Pending sweep (.settling settled deferred))
    (hn : 5 * s.dueCount sweep + 2 ≤ n + 1)
    (hquery : s.query i (sweep.move (.settling settled deferred)) reply = some s') :
    s'.Within i sweep n := by
  obtain rfl := Option.some.inj hquery
  obtain ⟨hsettled, hdue, hdeferred⟩ := hpending
  set removed := s.remove i (settled.map PageRow.storageKey) with hremoved
  have hlt : removed.dueCount sweep < s.dueCount sweep := by
    obtain ⟨r, hr⟩ := List.exists_mem_of_ne_nil _ hsettled
    obtain ⟨row, hrow, hkey, -, hp⟩ := hdue r hr
    exact dueCount_remove_lt ⟨row, hrow, hkey ▸ List.mem_map_of_mem hr, hp⟩
  have hkeys : (removed.queue.map CleanupRow.storageKey).Nodup :=
    hnodup.sublist (List.filter_sublist.map _)
  have hget : ∀ (s : System) (sweep' : Sweep), i < s.sweeps.length →
      (s.setSweep i sweep').sweeps[i]? = some sweep' := fun _ _ hi => List.getElem?_set_self hi
  simp only [deferOr_move]
  unfold System.unlessRefused
  cases reply with
  | answered =>
    change (removed.setSweep i (sweep.deferOr settled.length deferred)).Within i sweep n
    unfold Sweep.deferOr
    split_ifs with hnil
    · exact within_next hi hkeys (by omega)
    · refine ⟨_, hget removed _ hi, hkeys, ⟨hnil, fun r hr => ?_⟩, ?_⟩
      · obtain ⟨hrow, hlate, hkey⟩ := hdeferred r hr
        exact ⟨dueRow_remove (i := i) hrow hkey, hlate⟩
      · change 5 * removed.dueCount sweep + 1 ≤ n
        omega
  | refused =>
    refine ⟨.threw, hget s _ hi, hnodup, trivial, ?_⟩
    change 5 * s.dueCount sweep + 0 ≤ n
    omega
  | lost =>
    refine ⟨.threw, hget removed _ hi, hkeys, trivial, ?_⟩
    change 5 * removed.dueCount sweep + 0 ≤ n
    omega

lemma within_deferring {reply : Reply} {count : ℕ} {deferred : List PageRow}
    (hi : i < s.sweeps.length) (hnodup : (s.queue.map CleanupRow.storageKey).Nodup)
    (hpending : s.Pending sweep (.deferring count deferred))
    (hn : 5 * s.dueCount sweep + 1 ≤ n + 1)
    (hquery : s.query i (sweep.move (.deferring count deferred)) reply = some s') :
    s'.Within i sweep n := by
  obtain rfl := Option.some.inj hquery
  set kept := s.defer (deferred.map PageRow.storageKey) with hkept
  have hlt : kept.dueCount sweep < s.dueCount sweep := defer_lt hnodup hpending.1 hpending.2
  have hkeys : (kept.queue.map CleanupRow.storageKey).Nodup := by
    rw [hkept, System.defer, keys_update]
    · exact hnodup
    · exact fun _ => rfl
  have hget : ∀ (s : System) (sweep' : Sweep), i < s.sweeps.length →
      (s.setSweep i sweep').sweeps[i]? = some sweep' := fun _ _ hi => List.getElem?_set_self hi
  simp only [next_move]
  unfold System.unlessRefused
  cases reply with
  | answered => exact within_next (s := kept) hi hkeys (by omega)
  | refused =>
    refine ⟨.threw, hget s _ hi, hnodup, trivial, ?_⟩
    change 5 * s.dueCount sweep + 0 ≤ n
    omega
  | lost =>
    refine ⟨.threw, hget kept _ hi, hkeys, trivial, ?_⟩
    change 5 * kept.dueCount sweep + 0 ≤ n
    omega

/-- The storage answers, and has deleted some of what it was asked for or nothing. -/
lemma within_deleting {page : List PageRow} {answer : StorageAnswer} (hi : i < s.sweeps.length)
    (hnodup : (s.queue.map CleanupRow.storageKey).Nodup)
    (hpending : s.Pending sweep (.deleting page))
    (hhonest : ∀ key ∈ System.reportedKeys page answer, key ∈ page.map PageRow.storageKey)
    (hn : 5 * s.dueCount sweep + 4 ≤ n + 1) :
    (s.setSweep i (sweep.reported page answer)).Within i sweep n := by
  obtain ⟨hpage, hdue⟩ := hpending
  have hget : ∀ sweep' : Sweep, (s.setSweep i sweep').sweeps[i]? = some sweep' := fun _ =>
    List.getElem?_set_self hi
  have hall : ∃ row ∈ s.queue, row.storageKey ∈ page.map PageRow.storageKey ∧
      sweep.due row = true := by
    obtain ⟨r, hr⟩ := List.exists_mem_of_ne_nil _ hpage
    obtain ⟨row, hrow, hkey, -, hp⟩ := hdue r hr
    exact ⟨row, hrow, hkey ▸ List.mem_map_of_mem hr, hp⟩
  cases answer with
  | unsupported => exact ⟨_, hget _, hnodup, hall, Nat.le_of_succ_le_succ hn⟩
  | threw message => exact ⟨_, hget _, hnodup, hall, Nat.le_of_succ_le_succ hn⟩
  | deletedAll => exact within_settle hi hnodup hpage hdue (by omega)
  | deleted keys =>
    have hdone : keys ≠ [] → page.filter (keys.contains ·.storageKey) ≠ [] := by
      intro hkeys
      obtain ⟨key, hkey⟩ := List.exists_mem_of_ne_nil _ hkeys
      obtain ⟨r, hr, rfl⟩ := List.mem_map.mp (hhonest key hkey)
      exact List.ne_nil_of_mem (List.mem_filter.mpr ⟨hr, List.contains_iff_mem.mpr hkey⟩)
    unfold Sweep.reported
    dsimp only
    split_ifs with hremaining hkeys
    · refine within_settle hi hnodup (hdone fun hkeys => ?_)
        (fun r hr => hdue r (List.mem_filter.mp hr).1) (by omega)
      simp [hkeys, hpage] at hremaining
    · refine ⟨_, hget _, hnodup, ?_, Nat.le_of_succ_le_succ hn⟩
      obtain ⟨row, hrow, hkey, hp⟩ := hall
      exact ⟨row, hrow, List.mem_filter.mpr ⟨hkey, by simp [hkeys]⟩, hp⟩
    · refine ⟨_, hget _, hnodup, ⟨hdone hkeys, fun r hr => ?_⟩, Nat.le_of_succ_le_succ hn⟩
      obtain ⟨hr', hkey⟩ := List.mem_filter.mp hr
      refine ⟨hdue r hr', fun hmem => ?_⟩
      rw [List.mem_filter, hkey] at hmem
      exact absurd hmem.2 (by simp)

/-- **Every event of a sweep that is left alone brings it closer to its end.** -/
lemma within_step (h : s.Within i sweep (n + 1)) (halone : Alone i s e)
    (hstep : s.step e = some s') : s'.Within i sweep n := by
  obtain ⟨phase, hget, hnodup, hpending, hn⟩ := h
  have hi : i < s.sweeps.length := (List.getElem?_eq_some_iff.mp hget).1
  cases e with
  | enqueue storageKey uploadExpiresAt clock => exact halone.elim
  | begin sweep' => exact halone.elim
  | query j reply =>
    obtain rfl : j = i := halone
    obtain ⟨sweep', hsweep', hquery⟩ := Option.bind_eq_some_iff.mp hstep
    obtain rfl := Option.some.inj (hget.symm.trans hsweep')
    cases phase with
    | selecting => exact within_selecting hi hnodup hn hquery
    | marking remaining message done => exact within_marking hi hnodup hpending hn hquery
    | settling settled deferred => exact within_settling hi hnodup hpending hn hquery
    | deferring count deferred => exact within_deferring hi hnodup hpending hn hquery
    | deleting page => cases hquery
    | returned settled => cases hquery
    | threw => cases hquery
  | storage j answer =>
    obtain ⟨rfl, hhonest⟩ := halone
    obtain ⟨sweep', hsweep', hanswer⟩ := Option.bind_eq_some_iff.mp hstep
    obtain rfl := Option.some.inj (hget.symm.trans hsweep')
    cases phase with
    | deleting page =>
      obtain rfl := Option.some.inj hanswer
      exact within_deleting hi hnodup hpending (hhonest _ page hget rfl) hn
    | _ => cases hanswer

/-! ## A whole sweep -/

/-- A sweep without events to go does nothing. -/
lemma within_zero (h : s.Within i sweep 0) (halone : Alone i s e) : s.step e = none := by
  obtain ⟨phase, hget, -, -, hn⟩ := h
  have hweight : phase.weight = 0 := (Nat.add_eq_zero_iff.mp (Nat.le_zero.mp hn)).2
  cases e with
  | enqueue storageKey uploadExpiresAt clock => exact halone.elim
  | begin sweep' => exact halone.elim
  | query j reply =>
    obtain rfl : j = i := halone
    simp only [System.step, hget, Option.bind_some]
    cases phase with
    | returned settled => rfl
    | threw => rfl
    | _ => cases hweight
  | storage j answer =>
    obtain ⟨rfl, -⟩ := halone
    simp only [System.step, hget, Option.bind_some]
    cases phase with
    | returned settled => rfl
    | threw => rfl
    | _ => cases hweight

lemma nodup_query {reply : Reply} (h : (s.queue.map CleanupRow.storageKey).Nodup)
    (hquery : s.query i sweep reply = some s') : (s'.queue.map CleanupRow.storageKey).Nodup := by
  have hkept : ∀ (keys : List String) (f : CleanupRow → CleanupRow),
      (∀ row, (f row).storageKey = row.storageKey) →
        ((s.unlessRefused reply (s.update keys f)).queue.map CleanupRow.storageKey).Nodup := by
    intro keys f hf
    unfold System.unlessRefused
    split_ifs
    · exact h
    · rwa [keys_update hf]
  unfold System.query at hquery
  split at hquery
  · obtain rfl := Option.some.inj hquery
    dsimp only
    split_ifs <;> exact h
  · obtain rfl := Option.some.inj hquery
    exact hkept _ _ fun _ => rfl
  · next settled deferred _ =>
    obtain rfl := Option.some.inj hquery
    change ((s.unlessRefused reply _).queue.map CleanupRow.storageKey).Nodup
    unfold System.unlessRefused
    split_ifs
    · exact h
    · exact h.sublist (List.filter_sublist.map _)
  · obtain rfl := Option.some.inj hquery
    exact hkept _ _ fun _ => rfl
  · cases hquery

/-- The queue has one tombstone for each storage key. -/
lemma nodup_step (h : (s.queue.map CleanupRow.storageKey).Nodup) (hstep : s.step e = some s') :
    (s'.queue.map CleanupRow.storageKey).Nodup := by
  cases e with
  | enqueue storageKey uploadExpiresAt clock =>
    obtain rfl := Option.some.inj hstep
    change ((System.upsert s.queue storageKey _ clock).map CleanupRow.storageKey).Nodup
    unfold System.upsert
    split_ifs with hany
    · rw [List.map_map]
      convert h using 1
      refine List.map_congr_left fun row _ => ?_
      dsimp only [Function.comp_apply]
      split_ifs <;> rfl
    · rw [List.map_append, List.map_singleton, List.nodup_append]
      refine ⟨h, List.nodup_singleton _, fun key hkey key' hkey' => ?_⟩
      obtain ⟨row, hrow, rfl⟩ := List.mem_map.mp hkey
      rw [List.mem_singleton.mp hkey']
      exact fun heq => hany (List.any_eq_true.mpr ⟨row, hrow, beq_iff_eq.mpr heq⟩)
  | begin sweep' =>
    simp only [System.step] at hstep
    split_ifs at hstep
    obtain rfl := Option.some.inj hstep
    exact h
  | query j reply =>
    obtain ⟨sweep', -, hquery⟩ := Option.bind_eq_some_iff.mp hstep
    exact nodup_query h hquery
  | storage j answer =>
    obtain ⟨sweep', -, hanswer⟩ := Option.bind_eq_some_iff.mp hstep
    split at hanswer
    · obtain rfl := Option.some.inj hanswer
      exact h
    · cases hanswer

/-- The sweep has returned or thrown. -/
def System.Ended (s : System) (i : ℕ) : Prop :=
  ∃ sweep, s.sweeps[i]? = some sweep ∧ (sweep.phase = .threw ∨ ∃ n, sweep.phase = .returned n)

end Cleanup
