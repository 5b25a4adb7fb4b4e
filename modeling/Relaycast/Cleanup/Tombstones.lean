import Relaycast.Cleanup.Outbox

/-!
# Tombstones

However sweeps overlap and whatever fails, the tombstone of a deleted file stays queued with its
deadline until a sweep removes it, and a sweep removes it only after it read the tombstone with a
deadline that had passed, and after the storage reported to that sweep that the object is gone
(`tombstone_settled`).
-/

namespace Cleanup

open Relational Reactive

variable {s s' : System} {e : Event} {es : List Event} {i : ℕ} {sweep : Sweep} {r : PageRow}

/-! ## What a sweep knows -/

/-- The sweep read the row, and the storage reported to it that the object is deleted. -/
def System.Deleted (s : System) (i : ℕ) (r : PageRow) : Prop :=
  ∃ page keys, .read i page ∈ s.log ∧ r ∈ page ∧ .reported i keys ∈ s.log ∧ r.storageKey ∈ keys

/-- What a sweep knows of the rows it is working off. -/
def System.Knows (s : System) (i : ℕ) (sweep : Sweep) : Prop :=
  match sweep.phase with
  | .deleting page => .read i page ∈ s.log
  | .marking _ _ (some done) => ∀ r ∈ done, s.Deleted i r
  | .settling settled _ => ∀ r ∈ settled, s.Deleted i r ∧ toDate r.deleteAfter ≤ sweep.now
  | _ => True

lemma System.Deleted.mono (h : s.Deleted i r) (hlog : ∀ x ∈ s.log, x ∈ s'.log) :
    s'.Deleted i r := by
  obtain ⟨page, keys, hread, hr, hreported, hkey⟩ := h
  exact ⟨page, keys, hlog _ hread, hr, hlog _ hreported, hkey⟩

lemma System.Knows.mono (h : s.Knows i sweep) (hlog : ∀ x ∈ s.log, x ∈ s'.log) :
    s'.Knows i sweep := by
  unfold System.Knows at h ⊢
  split
  · next page hphase =>
    simp only [hphase] at h
    exact hlog _ h
  · next remaining message done hphase =>
    simp only [hphase] at h
    exact fun r hr => (h r hr).mono hlog
  · next settled deferred hphase =>
    simp only [hphase] at h
    exact fun r hr => ⟨(h r hr).1.mono hlog, (h r hr).2⟩
  · trivial

lemma knows_next {settled : ℕ} {progressed : Bool} : s.Knows i (sweep.next settled progressed) := by
  unfold Sweep.next
  split_ifs <;> trivial

lemma knows_deferOr {count : ℕ} {deferred : List PageRow} :
    s.Knows i (sweep.deferOr count deferred) := by
  unfold Sweep.deferOr
  split_ifs
  · exact knows_next
  · trivial

lemma knows_settle {done : List PageRow} (h : ∀ r ∈ done, s.Deleted i r) :
    s.Knows i (sweep.settle done) := by
  unfold Sweep.settle
  dsimp only
  split_ifs
  · exact knows_deferOr
  · intro r hr
    obtain ⟨hdone, hexpired⟩ := List.mem_filter.mp hr
    exact ⟨h r hdone, of_decide_eq_true hexpired⟩

/-- What the storage reports, the sweep knows. -/
lemma knows_reported {page : List PageRow} {answer : StorageAnswer} (hread : .read i page ∈ s.log)
    (hreported : .reported i (System.reportedKeys page answer) ∈ s.log) :
    s.Knows i (sweep.reported page answer) := by
  have hdeleted : ∀ r ∈ page, r.storageKey ∈ System.reportedKeys page answer → s.Deleted i r :=
    fun r hr hkey => ⟨page, _, hread, hr, hreported, hkey⟩
  cases answer with
  | unsupported => trivial
  | threw message => trivial
  | deletedAll => exact knows_settle fun r hr => hdeleted r hr (List.mem_map_of_mem hr)
  | deleted keys =>
    have hdone : ∀ r ∈ page.filter (keys.contains ·.storageKey), s.Deleted i r := by
      intro r hr
      obtain ⟨hpage, hkey⟩ := List.mem_filter.mp hr
      exact hdeleted r hpage (List.contains_iff_mem.mp hkey)
    unfold Sweep.reported
    dsimp only
    split_ifs
    · exact knows_settle hdone
    · trivial
    · exact hdone

@[simp] lemma move_now {phase : Phase} : (sweep.move phase).now = sweep.now := rfl

@[simp] lemma next_now {settled : ℕ} {progressed : Bool} :
    (sweep.next settled progressed).now = sweep.now := by
  unfold Sweep.next
  split_ifs <;> rfl

@[simp] lemma deferOr_now {count : ℕ} {deferred : List PageRow} :
    (sweep.deferOr count deferred).now = sweep.now := by
  unfold Sweep.deferOr
  split_ifs <;> simp

@[simp] lemma settle_now {done : List PageRow} : (sweep.settle done).now = sweep.now := by
  unfold Sweep.settle
  dsimp only
  split_ifs <;> simp

@[simp] lemma reported_now {page : List PageRow} {answer : StorageAnswer} :
    (sweep.reported page answer).now = sweep.now := by
  cases answer <;> simp [Sweep.reported]
  split_ifs <;> simp

/-! ## The ledger -/

/-- A removal that was called for. -/
def System.Justified (s : System) (i : ℕ) (row : CleanupRow) : Prop :=
  ∃ sweep deleteAfter, s.sweeps[i]? = some sweep ∧ toDate deleteAfter ≤ sweep.now ∧
    s.Deleted i ⟨row.storageKey, deleteAfter⟩

/-- Every tombstone that was queued is queued or was removed, and every removal was called for. -/
structure Ledger (s : System) : Prop where
  kept : ∀ key d, .enqueued key d ∈ s.log →
    (∃ row ∈ s.queue, row.storageKey = key ∧ d ≤ row.deleteAfter) ∨
      ∃ i row, .removed i row ∈ s.log ∧ row.storageKey = key ∧ d ≤ row.deleteAfter
  queued : ∀ row ∈ s.queue, .enqueued row.storageKey row.deleteAfter ∈ s.log
  read : ∀ i page, .read i page ∈ s.log → ∀ r ∈ page, .enqueued r.storageKey r.deleteAfter ∈ s.log
  removed : ∀ i row, .removed i row ∈ s.log → s.Justified i row
  knows : ∀ i sweep, s.sweeps[i]? = some sweep → s.Knows i sweep

namespace Ledger

lemma start : Ledger .start :=
  ⟨fun _ _ h => absurd h List.not_mem_nil, fun _ h => absurd h List.not_mem_nil,
    fun _ _ h => absurd h List.not_mem_nil, fun _ _ h => absurd h List.not_mem_nil,
    fun _ _ h => absurd h (by simp [System.start])⟩

/-- One sweep goes on: its reading is of the queue, its removals are called for, and the queue keeps
the other tombstones as they are. -/
lemma go {sweep' : Sweep} (newer : List Effect) (h : Ledger s)
    (hsweep : s.sweeps[i]? = some sweep)
    (hsweeps : s'.sweeps = s.sweeps.set i sweep') (hlog : s'.log = newer ++ s.log)
    (hnow : sweep'.now = sweep.now) (hknows : s'.Knows i sweep')
    (hkept : ∀ row ∈ s.queue, (∃ row' ∈ s'.queue, row'.storageKey = row.storageKey ∧
      row'.deleteAfter = row.deleteAfter) ∨ .removed i row ∈ newer)
    (hqueue : ∀ row' ∈ s'.queue, ∃ row ∈ s.queue, row'.storageKey = row.storageKey ∧
      row'.deleteAfter = row.deleteAfter)
    (hnewer : ∀ x ∈ newer, (∃ row, x = .removed i row ∧ s.Justified i row) ∨
      (∃ page, x = .read i page ∧ ∀ r ∈ page, .enqueued r.storageKey r.deleteAfter ∈ s.log) ∨
        ∃ keys, x = .reported i keys) : Ledger s' := by
  have hmem : ∀ x ∈ s.log, x ∈ s'.log := fun x hx => hlog ▸ List.mem_append_right _ hx
  have hsame : ∀ j row, s.Justified j row → s'.Justified j row := by
    rintro j row ⟨sweep₀, d, hsweep₀, hd, hdeleted⟩
    by_cases hij : i = j
    · subst hij
      obtain rfl := Option.some.inj (hsweep.symm.trans hsweep₀)
      refine ⟨sweep', d, ?_, hnow ▸ hd, hdeleted.mono hmem⟩
      rw [hsweeps, List.getElem?_set_self (List.getElem?_eq_some_iff.mp hsweep).1]
    · exact ⟨sweep₀, d, by rw [hsweeps, List.getElem?_set_ne hij, hsweep₀], hd, hdeleted.mono hmem⟩
  constructor
  · intro key d henqueued
    rw [hlog, List.mem_append] at henqueued
    obtain hnew | hold := henqueued
    · rcases hnewer _ hnew with ⟨_, hx, _⟩ | ⟨_, hx, _⟩ | ⟨_, hx⟩ <;> cases hx
    · obtain ⟨row, hrow, hkey, hd⟩ | ⟨j, row, hremoved, hrest⟩ := h.kept key d hold
      · obtain ⟨row', hrow', hkey', hd'⟩ | hremoved := hkept row hrow
        · exact .inl ⟨row', hrow', hkey'.trans hkey, hd'.symm ▸ hd⟩
        · exact .inr ⟨i, row, hlog ▸ List.mem_append_left _ hremoved, hkey, hd⟩
      · exact .inr ⟨j, row, hmem _ hremoved, hrest⟩
  · intro row' hrow'
    obtain ⟨row, hrow, hkey, hd⟩ := hqueue row' hrow'
    rw [hkey, hd]
    exact hmem _ (h.queued row hrow)
  · intro j page hread r hr
    rw [hlog, List.mem_append] at hread
    obtain hnew | hold := hread
    · obtain ⟨row, hx, -⟩ | ⟨page', hx, hpage⟩ | ⟨keys, hx⟩ := hnewer _ hnew
      · cases hx
      · cases hx
        exact hmem _ (hpage r hr)
      · cases hx
    · exact hmem _ (h.read j page hold r hr)
  · intro j row hremoved
    rw [hlog, List.mem_append] at hremoved
    obtain hnew | hold := hremoved
    · obtain ⟨row', hx, hjustified⟩ | ⟨page, hx, -⟩ | ⟨keys, hx⟩ := hnewer _ hnew
      · cases hx
        exact hsame i row hjustified
      · cases hx
      · cases hx
    · exact hsame j row (h.removed j row hold)
  · intro j sweep₀ hsweep₀
    rw [hsweeps] at hsweep₀
    by_cases hij : i = j
    · subst hij
      rw [List.getElem?_set_self (List.getElem?_eq_some_iff.mp hsweep).1] at hsweep₀
      exact Option.some.inj hsweep₀ ▸ hknows
    · rw [List.getElem?_set_ne hij] at hsweep₀
      exact (h.knows j sweep₀ hsweep₀).mono hmem

/-- A write that leaves the deadlines as they are. -/
lemma write {sweep' : Sweep} {keys : List String} {f : CleanupRow → CleanupRow} {reply : Reply}
    (h : Ledger s) (hsweep : s.sweeps[i]? = some sweep) (hnow : sweep'.now = sweep.now)
    (hf : ∀ row, (f row).storageKey = row.storageKey ∧ (f row).deleteAfter = row.deleteAfter)
    (hknows : s.Knows i sweep') :
    Ledger ((s.unlessRefused reply (s.update keys f)).setSweep i sweep') := by
  unfold System.unlessRefused
  split_ifs
  · exact h.go [] hsweep rfl rfl hnow hknows
      (fun row hrow => .inl ⟨row, hrow, rfl, rfl⟩) (fun row hrow => ⟨row, hrow, rfl, rfl⟩)
      fun _ hx => absurd hx List.not_mem_nil
  · refine h.go [] hsweep rfl rfl hnow (hknows.mono fun _ => id) (fun row hrow => ?_)
      (fun row' hrow' => ?_) fun _ hx => absurd hx List.not_mem_nil
    · refine .inl ⟨_, List.mem_map_of_mem hrow, ?_⟩
      split_ifs
      · exact hf row
      · exact ⟨rfl, rfl⟩
    · obtain ⟨row, hrow, rfl⟩ := List.mem_map.mp hrow'
      refine ⟨row, hrow, ?_⟩
      split_ifs
      · exact hf row
      · exact ⟨rfl, rfl⟩

/-- The rows of a page are tombstones. -/
lemma read_page (h : Ledger s) (hr : r ∈ sweep.page s.queue) :
    .enqueued r.storageKey r.deleteAfter ∈ s.log := by
  obtain ⟨row, hrow, rfl⟩ := List.mem_map.mp hr
  have hmem := (List.mem_insertionSort _).mp (List.mem_of_mem_take hrow)
  exact h.queued row (List.mem_filter.mp hmem).1

/-- Tombstones are removed whose objects the sweep knows to be deleted. -/
lemma remove {settled : List PageRow} {sweep' : Sweep} (h : Ledger s)
    (hsweep : s.sweeps[i]? = some sweep) (hnow : sweep'.now = sweep.now)
    (hsettled : ∀ r ∈ settled, s.Deleted i r ∧ toDate r.deleteAfter ≤ sweep.now)
    (hknows : ∀ {s : System}, s.Knows i sweep') :
    Ledger ((s.remove i (settled.map PageRow.storageKey)).setSweep i sweep') := by
  refine h.go _ hsweep rfl rfl hnow hknows (fun row hrow => ?_) (fun row' hrow' => ?_)
    fun x hx => ?_
  · by_cases hkey : row.storageKey ∈ settled.map PageRow.storageKey
    · exact .inr (List.mem_map_of_mem (List.mem_filter.mpr ⟨hrow, by simpa using hkey⟩))
    · exact .inl ⟨row, List.mem_filter.mpr ⟨hrow, by simpa using hkey⟩, rfl, rfl⟩
  · exact ⟨row', (List.mem_filter.mp hrow').1, rfl, rfl⟩
  · obtain ⟨row, hrow, rfl⟩ := List.mem_map.mp hx
    obtain ⟨-, hkey⟩ := List.mem_filter.mp hrow
    obtain ⟨r, hr, hrkey⟩ := List.mem_map.mp (of_decide_eq_true hkey)
    obtain ⟨hdeleted, hd⟩ := hsettled r hr
    refine .inl ⟨row, rfl, sweep, r.deleteAfter, hsweep, hd, ?_⟩
    rw [← hrkey]
    exact hdeleted

/-- Nothing changes but what the sweep is at. -/
lemma move {phase : Phase} (h : Ledger s) (hsweep : s.sweeps[i]? = some sweep)
    (hknows : s.Knows i (sweep.move phase)) : Ledger (s.setSweep i (sweep.move phase)) :=
  h.go [] hsweep rfl rfl rfl hknows (fun row hrow => .inl ⟨row, hrow, rfl, rfl⟩)
    (fun row hrow => ⟨row, hrow, rfl, rfl⟩) fun _ hx => absurd hx List.not_mem_nil

lemma query {reply : Reply} (h : Ledger s) (hsweep : s.sweeps[i]? = some sweep)
    (hquery : s.query i sweep reply = some s') : Ledger s' := by
  have hknown := h.knows i sweep hsweep
  unfold System.query at hquery
  split at hquery
  · next hphase =>
    obtain rfl := Option.some.inj hquery
    dsimp only
    split_ifs with hreply hpage
    · exact h.go [.read i (sweep.page s.queue)] hsweep rfl rfl rfl trivial
        (fun row hrow => .inl ⟨row, hrow, rfl, rfl⟩) (fun row hrow => ⟨row, hrow, rfl, rfl⟩)
        fun x hx => .inr (.inl ⟨_, List.mem_singleton.mp hx, fun r hr => h.read_page hr⟩)
    · exact h.go [.read i (sweep.page s.queue)] hsweep rfl rfl rfl List.mem_cons_self
        (fun row hrow => .inl ⟨row, hrow, rfl, rfl⟩) (fun row hrow => ⟨row, hrow, rfl, rfl⟩)
        fun x hx => .inr (.inl ⟨_, List.mem_singleton.mp hx, fun r hr => h.read_page hr⟩)
    · exact h.move hsweep trivial
  · next remaining message done hphase =>
    obtain rfl := Option.some.inj hquery
    refine h.write hsweep ?_ (fun _ => ⟨rfl, rfl⟩) ?_
    · cases done with
      | none => exact next_now
      | some done => exact settle_now
    · cases done with
      | none => exact knows_next
      | some done =>
        simp only [System.Knows, hphase] at hknown
        exact knows_settle hknown
  · next settled deferred hphase =>
    obtain rfl := Option.some.inj hquery
    simp only [System.Knows, hphase] at hknown
    have hcase : (if reply = .answered then sweep.deferOr settled.length deferred
        else sweep.move .threw).now = sweep.now ∧ ∀ {s : System}, s.Knows i
          (if reply = .answered then sweep.deferOr settled.length deferred
            else sweep.move .threw) := by
      split_ifs
      · exact ⟨deferOr_now, knows_deferOr⟩
      · exact ⟨rfl, trivial⟩
    rw [System.unlessRefused]
    split
    · exact h.go [] hsweep rfl rfl hcase.1 hcase.2 (fun row hrow => .inl ⟨row, hrow, rfl, rfl⟩)
        (fun row hrow => ⟨row, hrow, rfl, rfl⟩) fun _ hx => absurd hx List.not_mem_nil
    · exact h.remove hsweep hcase.1 hknown hcase.2
  · next count deferred hphase =>
    obtain rfl := Option.some.inj hquery
    refine h.write hsweep ?_ (fun _ => ⟨rfl, rfl⟩) ?_
    · split_ifs
      · exact next_now
      · rfl
    · split_ifs
      · exact knows_next
      · trivial
  · cases hquery

/-- A file is deleted: its tombstone is queued, and no deadline is brought forward. -/
lemma enqueue {storageKey : String} {uploadExpiresAt : Option Seconds} {clock : Seconds}
    (h : Ledger s) : Ledger (s.enqueue storageKey uploadExpiresAt clock) := by
  set d := System.deadline uploadExpiresAt clock
  have hmem : ∀ x ∈ s.log, x ∈ (s.enqueue storageKey uploadExpiresAt clock).log :=
    fun x hx => List.mem_cons_of_mem _ hx
  -- what the trigger makes of the queue
  have hupsert : (∀ row ∈ s.queue, ∃ row' ∈ System.upsert s.queue storageKey d clock,
        row'.storageKey = row.storageKey ∧ row.deleteAfter ≤ row'.deleteAfter) ∧
      (∃ row' ∈ System.upsert s.queue storageKey d clock,
        row'.storageKey = storageKey ∧ d ≤ row'.deleteAfter) ∧
      ∀ row' ∈ System.upsert s.queue storageKey d clock, row' ∈ s.queue ∨
        (row'.storageKey = storageKey ∧ row'.deleteAfter = d) ∨
          ∃ row ∈ s.queue, row'.storageKey = row.storageKey ∧ row'.deleteAfter = row.deleteAfter := by
    unfold System.upsert
    split_ifs with hany
    · obtain ⟨row₀, hrow₀, hkey₀⟩ := List.any_eq_true.mp hany
      rw [beq_iff_eq] at hkey₀
      refine ⟨fun row hrow => ⟨_, List.mem_map_of_mem hrow, ?_⟩, ⟨_, List.mem_map_of_mem hrow₀, ?_⟩,
        fun row' hrow' => ?_⟩
      · split_ifs with hkey
        · exact ⟨rfl, le_max_left _ _⟩
        · exact ⟨rfl, le_rfl⟩
      · rw [if_pos hkey₀]
        exact ⟨hkey₀, le_max_right _ _⟩
      · obtain ⟨row, hrow, rfl⟩ := List.mem_map.mp hrow'
        split_ifs with hkey
        · obtain hle | hle := Nat.le_total d row.deleteAfter
          · exact .inr (.inr ⟨row, hrow, rfl, Nat.max_eq_left hle⟩)
          · exact .inr (.inl ⟨hkey, Nat.max_eq_right hle⟩)
        · exact .inl hrow
    · refine ⟨fun row hrow => ⟨row, List.mem_append_left _ hrow, rfl, le_rfl⟩,
        ⟨_, List.mem_append_right _ List.mem_cons_self, rfl, le_rfl⟩, fun row' hrow' => ?_⟩
      obtain hold | hnew := List.mem_append.mp hrow'
      · exact .inl hold
      · rw [List.mem_singleton.mp hnew]
        exact .inr (.inl ⟨rfl, rfl⟩)
  obtain ⟨hkept, hnew, hqueue⟩ := hupsert
  refine ⟨fun key d' henqueued => ?_, fun row' hrow' => ?_, fun j page hread r hr => ?_,
    fun j row hremoved => ?_, fun j sweep hsweep => ?_⟩
  · obtain heq | hold := List.mem_cons.mp henqueued
    · cases heq
      exact .inl hnew
    · obtain ⟨row, hrow, rfl, hd⟩ | ⟨j, row, hremoved, hrest⟩ := h.kept key d' hold
      · obtain ⟨row', hrow', hkey', hd'⟩ := hkept row hrow
        exact .inl ⟨row', hrow', hkey', hd.trans hd'⟩
      · exact .inr ⟨j, row, hmem _ hremoved, hrest⟩
  · obtain hold | ⟨hkey, hd⟩ | ⟨row, hrow, hkey, hd⟩ := hqueue row' hrow'
    · exact hmem _ (h.queued row' hold)
    · rw [hkey, hd]
      exact List.mem_cons_self
    · rw [hkey, hd]
      exact hmem _ (h.queued row hrow)
  · exact hmem _ (h.read j page ((List.mem_cons.mp hread).resolve_left (by simp)) r hr)
  · obtain ⟨sweep, d', hsweep, hd', hdeleted⟩ :=
      h.removed j row ((List.mem_cons.mp hremoved).resolve_left (by simp))
    exact ⟨sweep, d', hsweep, hd', hdeleted.mono hmem⟩
  · exact (h.knows j sweep hsweep).mono hmem

/-- **Every event keeps the ledger.** -/
lemma step (h : Ledger s) (hstep : s.step e = some s') : Ledger s' := by
  cases e with
  | enqueue storageKey uploadExpiresAt clock =>
    obtain rfl := Option.some.inj hstep
    exact h.enqueue
  | begin sweep =>
    simp only [System.step] at hstep
    split_ifs at hstep with hphase
    obtain rfl := Option.some.inj hstep
    refine ⟨h.kept, h.queued, h.read, fun j row hremoved => ?_, fun j sweep' hsweep' => ?_⟩
    · obtain ⟨sweep', d, hsweep', hrest⟩ := h.removed j row hremoved
      exact ⟨sweep', d, (List.getElem?_append_left (List.getElem?_eq_some_iff.mp hsweep').1).trans
        hsweep', hrest⟩
    · by_cases hj : j < s.sweeps.length
      · exact h.knows j sweep' (List.getElem?_append_left hj ▸ hsweep')
      · rw [List.getElem?_append_right (Nat.le_of_not_lt hj), List.getElem?_singleton] at hsweep'
        split_ifs at hsweep'
        obtain rfl := Option.some.inj hsweep'
        simp only [System.Knows, hphase]
  | query i reply =>
    obtain ⟨sweep, hsweep, hquery⟩ := Option.bind_eq_some_iff.mp hstep
    exact h.query hsweep hquery
  | storage i answer =>
    obtain ⟨sweep, hsweep, hanswer⟩ := Option.bind_eq_some_iff.mp hstep
    split at hanswer
    · next page hphase =>
      obtain rfl := Option.some.inj hanswer
      have hknown := h.knows i sweep hsweep
      simp only [System.Knows, hphase] at hknown
      exact h.go [.reported i (System.reportedKeys page answer)] hsweep rfl rfl reported_now
        (knows_reported (List.mem_cons_of_mem _ hknown) List.mem_cons_self)
        (fun row hrow => .inl ⟨row, hrow, rfl, rfl⟩) (fun row hrow => ⟨row, hrow, rfl, rfl⟩)
        fun x hx => .inr (.inr ⟨_, List.mem_singleton.mp hx⟩)
    · cases hanswer

end Ledger

end Cleanup
